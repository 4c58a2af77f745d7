import WalletLedger.Database.Basic

/-!
# Users in the database

Identity records are inserted and looked up; the ledger does not change them.
-/

namespace WalletLedger.Database

open Query

/-- The live user of a property. -/
def findUser (selects : User → Bool) : Query (Option User) := do
  acquire
  return ((← users).find? fun r => selects r.user && !r.deleted).map (·.user)

/-- The live user of an identifier. -/
def userById (id : String) : Query (Option User) :=
  findUser (·.id == id)

/-- The live user of a name. -/
def userByName (username : String) : Query (Option User) :=
  findUser (·.username == username)

/-- Inserts an active user. The address and the name may not be taken, also
not by a user who was deleted; the address is looked at first. -/
def insertUser (u : NewUser) : Query User := naming u.username do
  acquire
  let rows ← users
  lockForWriting
  passUnique (rows.any (·.user.email == u.email)) "users.email"
  passUnique (rows.any (·.user.username == u.username)) "users.username"
  let id ← newId
  let now ← readClock
  let user : User := ⟨id, u.username, u.email, u.passwordHash, true, u.roleId, now, now⟩
  setUsers (rows ++ [⟨user, false⟩])
  return user

/-- The number of live users. -/
def countUsers : Query Nat := do
  acquire
  return ((← users).filter fun r => !r.deleted).length

end WalletLedger.Database
