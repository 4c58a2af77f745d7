import WalletLedger.Codec.Basic
import WalletLedger.Product

/-!
# Products in JSON

A new product may leave out its description.
-/

namespace WalletLedger.Codec

/-- The fields of a product, in the order in which an array lists them. -/
def productFields : List String :=
  ["id", "name", "description", "price", "stock", "created_at", "updated_at"]

instance : Codec Product where
  encode p := .object [
    Json.member "id" (encode p.id),
    Json.member "name" (encode p.name),
    Json.member "description" (encode p.description),
    Json.member "price" (encode p.price),
    Json.member "stock" (encode p.stock),
    Json.member "created_at" (encode p.createdAt),
    Json.member "updated_at" (encode p.updatedAt)]
  decodeWithin? outer j := do
    match ← j.fields? productFields with
    | [id, name, description, price, stock, created, updated] =>
      some {
        id := ← required outer id
        name := ← required outer name
        description := ← required outer description
        price := ← required outer price
        stock := ← required outer stock
        createdAt := ← required outer created
        updatedAt := ← required outer updated }
    | _ => none

/-- The fields of a new product, in the order in which an array lists them. -/
def newProductFields : List String :=
  ["name", "description", "price", "stock"]

instance : Codec NewProduct where
  encode p := .object [
    Json.member "name" (encode p.name),
    Json.member "description" (encode p.description),
    Json.member "price" (encode p.price),
    Json.member "stock" (encode p.stock)]
  decodeWithin? outer j := do
    match ← j.fields? newProductFields with
    | [name, description, price, stock] =>
      some {
        name := ← required outer name
        description := ← optional outer description ""
        price := ← required outer price
        stock := ← required outer stock }
    | _ => none

end WalletLedger.Codec
