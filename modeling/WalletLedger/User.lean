import WalletLedger.Timestamp.Basic

/-!
# Users

Identity records. The ledger reads them to show who owns a wallet; the
password hash stays inside the process.
-/

namespace WalletLedger

/-- An identity record. -/
structure User where
  id : String
  username : String
  email : String
  passwordHash : String
  active : Bool
  roleId : Int64
  createdAt : Timestamp
  updatedAt : Timestamp
deriving DecidableEq, Repr, Inhabited

/-- What a new identity record is made from. -/
structure NewUser where
  username : String
  email : String
  passwordHash : String
  roleId : Int64
deriving DecidableEq, Repr, Inhabited

namespace User

/-- The role of catalog administrators. -/
def adminRole : Int64 := 1

/-- The role of ordinary wallet holders. -/
def userRole : Int64 := 2

/-- The record without its secret. -/
def withoutSecret (u : User) : User := { u with passwordHash := "" }

end User

end WalletLedger
