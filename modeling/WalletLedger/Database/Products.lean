import WalletLedger.Database.Basic
import WalletLedger.Text.Blank

/-!
# Products in the database

The catalog. A product that is taken out of it keeps its row, because the
rows of the ledger refer to it.
-/

namespace WalletLedger.Database

open Query

/-- Whether a row is the live product of an identifier. -/
def isLive (id : String) (a : Article) : Bool :=
  a.product.id == id && !a.deleted

/-- The live products, by name and then by age. -/
def listProducts : Query (List Product) := do
  acquire
  let rows ← products
  return ((rows.filter fun a => !a.deleted).map (·.product)).mergeSort fun p q => p.name ≤ q.name

/-- The live product of an identifier. -/
def productById (id : String) : Query (Option Product) := do
  acquire
  return ((← products).find? (isLive id)).map (·.product)

/-- Inserts a product. -/
def insertProduct (p : NewProduct) : Query Product := do
  acquire
  let rows ← products
  lockForWriting
  let id ← newId
  let now ← readClock
  let product : Product :=
    ⟨id, Text.strip p.name, p.description, p.price, p.stock, now, now⟩
  if ← passGuard .productInsert then
    passChecks productChecks ⟨product, false⟩
    setProducts (rows ++ [⟨product, false⟩])
    return product
  else fail .rowNotFound

/-- Sets the fields of a live product. -/
def updateProduct (id : String) (p : NewProduct) : Query Product := do
  acquire
  let rows ← products
  lockForWriting
  let now ← readClock
  let change (a : Article) : Article :=
    { a with product := { a.product with
        name := Text.strip p.name, description := p.description, price := p.price
        stock := p.stock, updatedAt := now } }
  let (changed, rows) ← updateRow (some .stockUpdate) productChecks (isLive id) change rows
  setProducts rows
  match changed with
  | some a => return a.product
  | none => throw (.notFound "Product" id)

/-- Takes a live product out of the catalog. -/
def deleteProduct (id : String) : Query Unit := do
  acquire
  let rows ← products
  lockForWriting
  let now ← readClock
  let change (a : Article) : Article :=
    { product := { a.product with updatedAt := now }, deleted := true }
  let (changed, rows) ← updateRow (some .productDelete) productChecks (isLive id) change rows
  setProducts rows
  if changed.isNone then throw (.notFound "Product" id)

/-- The number of live products. -/
def countProducts : Query Nat := do
  acquire
  return ((← products).filter fun a => !a.deleted).length

end WalletLedger.Database
