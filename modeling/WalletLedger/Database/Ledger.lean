import WalletLedger.Database.Transaction

/-!
# The ledger in the database

Deposits, withdrawals and purchases are units of work: the wallet and the
product are read, the new balance and the new stock are computed and written,
and a row of the ledger is inserted and read back, statement by statement.
-/

namespace WalletLedger.Database

open Query

/-! ## Reading the ledger -/

/-- Rows of the ledger, newest first; of two with the same time the one that
was inserted later comes first. -/
def newestFirst (rows : List EntryRow) : List EntryRow :=
  rows.reverse.mergeSort fun r s => s.createdAt ≤ r.createdAt

/-- All entries, newest first. -/
def listEntries : Query (List Entry) := do
  acquire
  let rows ← entries
  ofExcept (EntryRow.entries (newestFirst rows))

/-- The entries of a user's wallet, newest first. -/
def history (user : String) : Query (List Entry) := do
  acquire
  let rows ← entries
  let wallets ← wallets
  let own := rows.filter fun r => wallets.any fun w => w.id == r.walletId && w.userId == user
  ofExcept (EntryRow.entries (newestFirst own))

/-- The number of rows of the ledger. -/
def countEntries : Query Nat := do
  acquire
  return (← entries).length

/-! ## Units of work -/

namespace Work

/-- The wallet of a user. -/
def findWallet (user : String) : Work Wallet := do
  orRefuse (.walletNotFound user) ((← statement wallets).find? (·.userId == user))

/-- The live product of an identifier. -/
def findProduct (id : String) : Work Product := do
  let found := (← statement products).find? fun a => a.product.id == id && !a.deleted
  orRefuse (.productNotFound id) (found.map (·.product))

/-- Writes the balance of a wallet. -/
def writeBalance (id : String) (balance : Money) : Work Unit := do
  let now ← query readClock
  let changed ← statement do
    let (changed, rows) ← updateRow (some .balanceUpdate) walletChecks (·.id == id)
      (fun w => { w with balance, updatedAt := now }) (← wallets)
    setWallets rows
    return changed
  if changed.isNone then
    refuse (.storage ("balance update for wallet " ++ id ++ " touched 0 rows"))

/-- Writes the stock of a product. -/
def writeStock (id : String) (stock : Int64) : Work Unit := do
  let now ← query readClock
  let changed ← statement do
    let (changed, rows) ← updateRow (some .stockUpdate) productChecks (·.product.id == id)
      (fun a => { a with product := { a.product with stock, updatedAt := now } }) (← products)
    setProducts rows
    return changed
  if changed.isNone then
    refuse (.storage ("stock update for product " ++ id ++ " touched 0 rows"))

/-- Whether the wallet and the product that a row refers to are there. -/
def hasReferences (db : Database) (r : EntryRow) : Bool :=
  (db.tables.wallets.getD []).any (·.id == r.walletId) &&
    match r.productId with
    | some p => (db.tables.products.getD []).any (·.product.id == p)
    | none => true

/-- Inserts a row of the ledger and reads it back. -/
def insertEntry (stamp : Stamp) (walletId : String) (kind : EntryKind) : Query Entry := do
  let rows ← entries
  let row := EntryRow.ofKind stamp walletId kind
  if ← passGuard .entryInsert then
    passChecks entryChecks row
    passReferences (hasReferences (← get) row)
    setEntries (rows ++ [row])
    ofExcept do row.entry (← row.readType)
  else fail .rowNotFound

/-- Appends an entry to the ledger. -/
def append (walletId : String) (kind : EntryKind) : Work Entry := do
  let id ← query newId
  let now ← query readClock
  statement (insertEntry ⟨id, now⟩ walletId kind)

/-- Adds money to a wallet. -/
def deposit (user : String) (amount : Money) : Work Entry := do
  let wallet ← findWallet user
  let balance ← orRefuse (.overflow "deposit") (wallet.balance.add? amount)
  writeBalance wallet.id balance
  append wallet.id (.deposit amount)

/-- Takes money out of a wallet. -/
def withdraw (user : String) (amount : Money) : Work Entry := do
  let wallet ← findWallet user
  if wallet.balance < amount then refuse (.insufficientBalance wallet.balance amount)
  let balance ← compute (wallet.balance.sub amount)
  writeBalance wallet.id balance
  append wallet.id (.withdraw amount)

/-- Exchanges money of a wallet for units of a product. -/
def purchase (user productId : String) (quantity : Int64) : Work Entry := do
  let wallet ← findWallet user
  let product ← findProduct productId
  if product.stock.toInt < quantity.toInt then
    refuse (.insufficientStock productId product.stock quantity)
  let total ← orRefuse (.overflow "purchase total") (product.price.mul? quantity)
  if wallet.balance < total then refuse (.insufficientBalance wallet.balance total)
  let balance ← compute (wallet.balance.sub total)
  writeBalance wallet.id balance
  writeStock productId (← compute (subtract product.stock quantity))
  append wallet.id (.purchase productId quantity total)

end Work

end WalletLedger.Database
