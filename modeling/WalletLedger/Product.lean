import WalletLedger.Money
import WalletLedger.Timestamp.Basic

/-!
# Products

What the catalog offers, and what a catalog entry is made from.
-/

namespace WalletLedger

/-- What the catalog offers. -/
structure Product where
  id : String
  name : String
  description : String
  price : Money
  stock : Int64
  createdAt : Timestamp
  updatedAt : Timestamp
deriving DecidableEq, Repr, Inhabited

/-- A product as a store keeps it: one that was taken out of the catalog stays,
because entries refer to it. -/
structure Article where
  product : Product
  deleted : Bool
deriving DecidableEq, Repr, Inhabited

/-- The fields of a product that a catalog write sets. -/
structure NewProduct where
  name : String
  description : String
  price : Money
  stock : Int64
deriving DecidableEq, Repr, Inhabited

namespace NewProduct

/-- The greatest number of characters in a name. -/
def maxNameLength : Nat := 200

/-- The greatest number of characters in a description. -/
def maxDescriptionLength : Nat := 1000

end NewProduct

end WalletLedger
