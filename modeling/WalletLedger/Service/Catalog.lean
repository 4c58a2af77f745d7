import WalletLedger.Codec.Catalog
import WalletLedger.Service.Basic

/-!
# The catalog service

Reads go through the cache. Writes are checked first; an update and a removal
make sure that the product is there before they ask the store to change it.
-/

namespace WalletLedger.Services

variable {m : Type → Type} [Monad m] (s : Services m)

/-- The live product of an identifier, or the refusal that there is none. No
product has an identifier that is no spelling of a UUID. -/
def existingProduct (id : String) : Attempt m Product := do
  match Validation.uuid id with
  | .error _ => throw (.refused (.productNotFound id))
  | .ok () => orRefuse (.productNotFound id) (← s.store.productById (some s.limit) id)

/-- The catalog. -/
def listProducts : Attempt m (Outcome (List Product)) :=
  s.readThrough Cache.productsKey (s.store.listProducts (some s.limit))

/-- One product. -/
def getProduct (id : String) : Attempt m (Outcome Product) :=
  s.readThrough (Cache.productKey id) (s.existingProduct id)

/-- Adds a product to the catalog. -/
def createProduct (product : NewProduct) : Attempt m (Outcome Product) := do
  check (Validation.newProduct product)
  let created ← s.store.insertProduct product
  s.forget [Cache.productsKey]
  return .created created

/-- Sets the fields of a product. -/
def updateProduct (id : String) (product : NewProduct) : Attempt m (Outcome Product) := do
  check (Validation.newProduct product)
  let _ ← s.existingProduct id
  let updated ← s.store.updateProduct id product
  s.forget [Cache.productsKey, Cache.productKey id]
  return .ok updated

/-- Takes a product out of the catalog. -/
def deleteProduct (id : String) : Attempt m (Outcome Unit) := do
  let _ ← s.existingProduct id
  s.store.deleteProduct id
  s.forget [Cache.productsKey, Cache.productKey id]
  return .ok ()

end WalletLedger.Services
