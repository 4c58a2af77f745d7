import WalletLedger.Money
import WalletLedger.Timestamp.Basic

/-!
# Ledger entries

A committed entry records one movement of a wallet's money. Only a purchase
carries a product and a quantity.
-/

namespace WalletLedger

/-- The three kinds of ledger entries. -/
inductive EntryType
  | deposit
  | withdraw
  | purchase
deriving DecidableEq, Repr, Inhabited

/-- The name under which a kind is stored. -/
def EntryType.name : EntryType → String
  | .deposit => "deposit"
  | .withdraw => "withdraw"
  | .purchase => "purchase"

/-- All kinds, in the order of their indices. -/
def EntryType.all : List EntryType :=
  [.deposit, .withdraw, .purchase]

/-- The kind of a name. -/
def EntryType.ofName? (name : String) : Option EntryType :=
  all.find? (·.name == name)

/-- What an entry did. -/
inductive EntryKind
  /-- Money was added. -/
  | deposit (amount : Money)
  /-- Money was taken out. -/
  | withdraw (amount : Money)
  /-- Money was exchanged for units of a product. -/
  | purchase (productId : String) (quantity : Int64) (amount : Money)
deriving DecidableEq, Repr, Inhabited

namespace EntryKind

/-- The amount that moved. -/
def amount : EntryKind → Money
  | .deposit a | .withdraw a | .purchase _ _ a => a

/-- The kind without its fields. -/
def type : EntryKind → EntryType
  | .deposit _ => .deposit
  | .withdraw _ => .withdraw
  | .purchase _ _ _ => .purchase

/-- The product of a purchase. -/
def productId? : EntryKind → Option String
  | .purchase p _ _ => some p
  | _ => none

/-- The number of units of a purchase. -/
def quantity? : EntryKind → Option Int64
  | .purchase _ q _ => some q
  | _ => none

end EntryKind

/-- A committed ledger entry. -/
structure Entry where
  id : String
  walletId : String
  kind : EntryKind
  createdAt : Timestamp
deriving DecidableEq, Repr, Inhabited

end WalletLedger
