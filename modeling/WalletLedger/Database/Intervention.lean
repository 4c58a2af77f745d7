import WalletLedger.Database.Basic

/-!
# Interventions

What somebody beside the ledger may do to a database: put guards on it,
change or remove rows, drop tables, and loosen the checks. Interventions on
rows have to pass the checks and references that hold at the time.
-/

namespace WalletLedger.Database

/-- A change of a database that does not come from the ledger. -/
inductive Intervention
  | guard (watch : Watch) (refuses : Bool)
  | removeGuards
  | loosenChecks
  | setBalance (user : String) (cents : Int64)
  | setStock (product : String) (stock : Int64)
  | setPrice (product : String) (cents : Int64)
  | setQuantity (entry : String) (quantity : Option Int64)
  | clearProduct (entry : String)
  | setType (entry type : String)
  | setActive (user : String) (active : Bool)
  | deleteUser (user : String)
  | removeWallet (user : String)
  | removeProduct (product : String)
  | dropEntries
  | dropUsers
deriving DecidableEq, Repr

/-- The table that a guard is put on. -/
def Watch.table : Watch → String
  | .balanceUpdate | .walletInsert => "wallets"
  | .stockUpdate | .productInsert | .productDelete => "products"
  | .entryInsert => "transactions"

namespace Intervention

open Query

/-- Whether a table is there. -/
def hasTable (t : Tables) : Watch → Bool
  | .balanceUpdate | .walletInsert => t.wallets.isSome
  | .stockUpdate | .productInsert | .productDelete => t.products.isSome
  | .entryInsert => t.entries.isSome

/-- Changes the wallet of a user. -/
def changeWallet (user : String) (change : Wallet → Wallet) : Query Unit := do
  let rows ← wallets
  lockForWriting
  setWallets (← updateRow (some .balanceUpdate) walletChecks (·.userId == user) change rows).2

/-- Changes a product. -/
def changeProduct (watch : Option Watch) (id : String) (change : Product → Product) :
    Query Unit := do
  let rows ← products
  lockForWriting
  setProducts (← updateRow watch productChecks (·.product.id == id)
    (fun a => { a with product := change a.product }) rows).2

/-- Changes a row of the ledger. -/
def changeEntry (id : String) (change : EntryRow → EntryRow) : Query Unit := do
  let rows ← entries
  lockForWriting
  setEntries (← updateRow none entryChecks (·.id == id) change rows).2

/-- Changes a user. -/
def changeUser (id : String) (change : UserRow → UserRow) : Query Unit := do
  let rows ← users
  lockForWriting
  setUsers (← updateRow none [] (·.user.id == id) change rows).2

/-- Carries out an intervention. -/
def apply (i : Intervention) : Query Unit := do
  acquire
  match i with
  | .guard watch refuses =>
    if !hasTable (← get).tables watch then refuse "1" ("no such table: main." ++ watch.table)
    lockForWriting
    modify fun db =>
      let guard : Guard := ⟨watch, refuses⟩
      if db.guards.contains guard then db else { db with guards := guard :: db.guards }
  | .removeGuards =>
    lockForWriting
    modify fun db => { db with guards := [] }
  | .loosenChecks => modify fun db => { db with enforced := false }
  | .setBalance user cents => changeWallet user fun w => { w with balance := ⟨cents⟩ }
  | .setStock id stock => changeProduct (some .stockUpdate) id fun p => { p with stock }
  | .setPrice id cents => changeProduct none id fun p => { p with price := ⟨cents⟩ }
  | .setQuantity id quantity => changeEntry id fun r => { r with quantity }
  | .clearProduct id => changeEntry id fun r => { r with productId := none }
  | .setType id type => changeEntry id fun r => { r with type }
  | .setActive id active => changeUser id fun r => { r with user := { r.user with active } }
  | .deleteUser id => changeUser id fun r => { r with deleted := true }
  | .removeWallet user =>
    let rows ← wallets
    lockForWriting
    let entries := (← get).tables.entries.getD []
    passReferences (rows.all fun w => w.userId != user || entries.all (·.walletId != w.id))
    setWallets (rows.filter (·.userId != user))
  | .removeProduct id =>
    let rows ← products
    lockForWriting
    let entries := (← get).tables.entries.getD []
    passReferences (rows.all fun a => a.product.id != id || entries.all (·.productId != some id))
    setProducts (rows.filter (·.product.id != id))
  | .dropEntries =>
    let _ ← entries
    lockForWriting
    modify fun db => { db with tables := { db.tables with entries := none } }
  | .dropUsers =>
    let _ ← users
    lockForWriting
    modify fun db => { db with tables := { db.tables with users := none } }

end Intervention

/-! ## The pool -/

/-- Takes a connection away, which gets the write lock. -/
def takeLock : Query Unit := do
  Query.acquire
  Query.lockForWriting
  modify fun db => { db with pool := { db.pool with isLocked := true } }

/-- Gives the connection and the write lock back. -/
def giveLockBack (db : Database) : Database :=
  { db with pool := { db.pool with isLocked := false } }

/-- Closes the pool for good. -/
def close (db : Database) : Database :=
  { db with pool := { db.pool with isOpen := false } }

end WalletLedger.Database
