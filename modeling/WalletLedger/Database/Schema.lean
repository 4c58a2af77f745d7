import WalletLedger.Database.Error
import WalletLedger.Entry
import WalletLedger.Product
import WalletLedger.Supply
import WalletLedger.Wallet

/-!
# The schema

The rows of the tables, listed in the order in which they were inserted, and
the conditions that every row has to meet. A row of the ledger keeps the kind
of its entry as text, with a product and a quantity that may be missing, so
not every row is an entry (`EntryRow.entry`).
-/

namespace WalletLedger.Database

/-- A row of the table of users. -/
structure UserRow where
  user : User
  deleted : Bool
deriving DecidableEq, Repr, Inhabited

/-- A row of the ledger. -/
structure EntryRow where
  id : String
  walletId : String
  productId : Option String
  quantity : Option Int64
  amount : Money
  type : String
  createdAt : Timestamp
deriving DecidableEq, Repr, Inhabited

/-- The tables; one that was not made or was dropped is missing. -/
structure Tables where
  users : Option (List UserRow)
  wallets : Option (List Wallet)
  products : Option (List Article)
  entries : Option (List EntryRow)
  /-- The versions of the migrations that were applied. -/
  migrations : Option (List Nat)
deriving DecidableEq, Repr, Inhabited

/-- No tables at all. -/
def Tables.none : Tables := ⟨.none, .none, .none, .none, .none⟩

/-! ## Rows of the ledger -/

namespace EntryRow

/-- The row of an entry. -/
def ofKind (stamp : Stamp) (walletId : String) (k : EntryKind) : EntryRow :=
  ⟨stamp.id, walletId, k.productId?, k.quantity?, k.amount, k.type.name, stamp.time⟩

/-- The kind of a row. -/
def readType (r : EntryRow) : Except DatabaseError EntryType :=
  match EntryType.ofName? r.type with
  | some t => .ok t
  | none => .error (.ofEngine (.columnDecode "transaction_type"
      ("invalid value " ++ Text.quoted r.type ++ " for enum TransactionType")))

/-- The error of a row whose product and quantity do not go with its kind. -/
def mismatch (r : EntryRow) (t : EntryType) : DatabaseError :=
  .corruptRow "transactions" (t.name ++ " row " ++ r.id ++ " has mismatched product/quantity")

/-- The entry of a row of a known kind. Exactly the rows of purchases have a
product and a quantity. -/
def entry (r : EntryRow) (t : EntryType) : Except DatabaseError Entry :=
  match t, r.productId, r.quantity with
  | .deposit, none, none => .ok ⟨r.id, r.walletId, .deposit r.amount, r.createdAt⟩
  | .withdraw, none, none => .ok ⟨r.id, r.walletId, .withdraw r.amount, r.createdAt⟩
  | .purchase, some p, some q => .ok ⟨r.id, r.walletId, .purchase p q r.amount, r.createdAt⟩
  | t, _, _ => .error (r.mismatch t)

/-- The entries of rows. The kinds of all rows are read before any entry is made. -/
def entries (rows : List EntryRow) : Except DatabaseError (List Entry) := do
  let types ← rows.mapM readType
  (rows.zip types).mapM fun (r, t) => r.entry t

end EntryRow

/-! ## Checks -/

/-- A condition on the rows of a table, under the text that names it. -/
structure Check (Row : Type) where
  text : String
  holds : Row → Bool

/-- The balance of a wallet is not below zero. -/
def walletChecks : List (Check Wallet) :=
  [⟨"balance >= 0", fun w => !w.balance.isNegative⟩]

/-- The price of a product is above zero and its stock not below. -/
def productChecks : List (Check Article) :=
  [⟨"price > 0", fun a => a.product.price.isPositive⟩,
   ⟨"stock >= 0", fun a => 0 ≤ a.product.stock.toInt⟩]

/-- Whether a product and a quantity above zero are there exactly for a purchase. -/
def EntryRow.isShaped (r : EntryRow) : Bool :=
  if r.type = "purchase" then
    r.productId.isSome && match r.quantity with
      | some q => 0 < q.toInt
      | none => false
  else r.productId.isNone && r.quantity.isNone

/-- The amount of an entry is above zero, its kind is known, and it has the
shape of its kind. -/
def entryChecks : List (Check EntryRow) :=
  [⟨"amount > 0", fun r => r.amount.isPositive⟩,
   ⟨"transaction_type IN ('deposit', 'withdraw', 'purchase')", fun r =>
      (EntryType.ofName? r.type).isSome⟩,
   ⟨"(transaction_type = 'purchase'\n            AND product_id IS NOT NULL AND quantity IS NOT NULL" ++
      " AND quantity > 0)\n        OR\n        (transaction_type <> 'purchase'\n" ++
      "            AND product_id IS NULL AND quantity IS NULL)", EntryRow.isShaped⟩]

/-- The first check that a row does not pass. -/
def firstBroken? {Row : Type} (checks : List (Check Row)) (row : Row) : Option String :=
  (checks.find? fun c => !c.holds row).map (·.text)

end WalletLedger.Database
