import WalletLedger.Memory.Books
import WalletLedger.Text.Blank

/-!
# Units of work on the books

What each operation does to the books, step by step. The steps run on a copy
of the books; when one of them fails the copy is dropped, so all that is left
of a failed unit is that a fault which it met is no longer armed.
-/

namespace WalletLedger.Memory

/-- A step of a ledger operation at which a fault can be raised. -/
inductive FaultPoint
  | balanceWrite
  | stockUpdate
  | ledgerInsert
deriving DecidableEq, Repr

/-- The name of a step. -/
def FaultPoint.name : FaultPoint → String
  | .balanceWrite => "BalanceWrite"
  | .stockUpdate => "StockUpdate"
  | .ledgerInsert => "LedgerInsert"

/-- A unit of work: steps on a copy of the books, which may fail, beside the
fault that is armed. -/
abbrev Work (α : Type) := StateT Books (ExceptT Failure (StateM (Option FaultPoint))) α

namespace Work

variable {α : Type}

/-- Ends the unit. -/
def refuse (e : LedgerError) : Work α :=
  throw (.refused e)

/-- The value that a lookup has to find. -/
def orRefuse (e : LedgerError) : Option α → Work α
  | some a => pure a
  | none => refuse e

/-- The result of an arithmetic step. -/
def compute : Except Abort α → Work α
  | .ok a => pure a
  | .error cause => throw (.aborted cause)

/-- Raises the fault that is armed for a step, once. -/
def trip (point : FaultPoint) : Work Unit :=
  fun books armed =>
    if armed = some point then
      (.error (.refused (.storage ("injected fault at " ++ point.name))), none)
    else (.ok ((), books), armed)

/-- Takes a new identifier. -/
def newId : Work String :=
  modifyGet fun b => (b.supply.newId.1, { b with supply := b.supply.newId.2 })

/-- Looks at the clock. -/
def readClock : Work Timestamp :=
  modifyGet fun b => (b.supply.readClock.1, { b with supply := b.supply.readClock.2 })

/-- The wallet of a user. -/
def findWallet (user : String) : Work Wallet := do
  orRefuse (.walletNotFound user) ((← get).wallet? user)

/-- The live product of an identifier. -/
def findProduct (id : String) : Work Product := do
  orRefuse (.productNotFound id) ((← get).product? id)

/-- Writes the balance of a wallet. -/
def writeBalance (user : String) (balance : Money) (time : Timestamp) : Work Unit :=
  modify (·.setWallet user fun w => { w with balance, updatedAt := time })

/-- Writes the stock of a product. -/
def writeStock (id : String) (stock : Int64) (time : Timestamp) : Work Unit :=
  modify (·.setArticle id fun a =>
    { a with product := { a.product with stock, updatedAt := time } })

/-- Appends an entry to the ledger. -/
def append (walletId : String) (kind : EntryKind) : Work Entry := do
  trip .ledgerInsert
  let id ← newId
  let entry : Entry := ⟨id, walletId, kind, ← readClock⟩
  modify fun b => { b with entries := b.entries ++ [entry] }
  return entry

/-! ## The ledger -/

/-- Adds money to a wallet. -/
def deposit (user : String) (amount : Money) : Work Entry := do
  let wallet ← findWallet user
  let balance ← orRefuse (.overflow "deposit") (wallet.balance.add? amount)
  trip .balanceWrite
  writeBalance user balance (← readClock)
  append wallet.id (.deposit amount)

/-- Takes money out of a wallet. -/
def withdraw (user : String) (amount : Money) : Work Entry := do
  let wallet ← findWallet user
  if wallet.balance < amount then refuse (.insufficientBalance wallet.balance amount)
  trip .balanceWrite
  let balance ← compute (wallet.balance.sub amount)
  writeBalance user balance (← readClock)
  append wallet.id (.withdraw amount)

/-- Exchanges money of a wallet for units of a product. The wallet and the product
are written under one time. -/
def purchase (user productId : String) (quantity : Int64) : Work Entry := do
  let wallet ← findWallet user
  let product ← findProduct productId
  if product.stock.toInt < quantity.toInt then
    refuse (.insufficientStock productId product.stock quantity)
  let total ← orRefuse (.overflow "purchase total") (product.price.mul? quantity)
  if wallet.balance < total then refuse (.insufficientBalance wallet.balance total)
  let now ← readClock
  trip .balanceWrite
  writeBalance user (← compute (wallet.balance.sub total)) now
  trip .stockUpdate
  writeStock productId (← compute (subtract product.stock quantity)) now
  append wallet.id (.purchase productId quantity total)

/-! ## Wallets and the catalog -/

/-- Makes a wallet without money. -/
def createWallet (user : String) : Work Wallet := do
  if ((← get).wallet? user).isSome then refuse (.duplicateWallet user)
  let now ← readClock
  let wallet : Wallet := ⟨← newId, user, Money.zero, now, now, none⟩
  modify fun b => { b with wallets := b.wallets ++ [wallet] }
  return wallet

/-- Makes a product. -/
def insertProduct (p : NewProduct) : Work Product := do
  let now ← readClock
  let product : Product :=
    ⟨← newId, Text.strip p.name, p.description, p.price, p.stock, now, now⟩
  modify fun b => { b with articles := b.articles ++ [⟨product, false⟩] }
  return product

/-- Sets the fields of a live product. -/
def updateProduct (id : String) (p : NewProduct) : Work Product := do
  let old ← findProduct id
  let updatedAt ← readClock
  let product : Product :=
    { old with
      name := Text.strip p.name, description := p.description, price := p.price
      stock := p.stock, updatedAt }
  modify (·.setArticle id fun a => { a with product })
  return product

/-- Takes a live product out of the catalog. -/
def deleteProduct (id : String) : Work Unit := do
  let _ ← findProduct id
  modify (·.setArticle id fun a => { a with deleted := true })

end Work

end WalletLedger.Memory
