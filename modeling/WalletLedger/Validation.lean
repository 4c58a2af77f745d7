import WalletLedger.Money
import WalletLedger.Product
import WalletLedger.Text.Blank
import WalletLedger.Uuid

/-!
# Field rules

What a request has to satisfy before any store is asked. Each rule names the
field at fault. The rules of a product are tried in the order name,
description, price, stock; lengths count characters, and the name counts
without the blanks at its ends.
-/

namespace WalletLedger

/-- How a field breaks its rule. -/
inductive FieldError
  | required (field : String)
  | tooLong (field : String) (max : Nat)
  | mustBePositive (field : String)
  | mustNotBeNegative (field : String)
  | invalidFormat (field : String) (reason : String)
deriving DecidableEq, Repr, Inhabited

/-- The text that describes a broken rule. -/
def FieldError.message : FieldError → String
  | .required field => field ++ " is required"
  | .tooLong field max => field ++ " must be at most " ++ Text.ofNat max ++ " characters"
  | .mustBePositive field => field ++ " must be positive"
  | .mustNotBeNegative field => field ++ " must not be negative"
  | .invalidFormat field reason => field ++ " has invalid format: " ++ reason

namespace Validation

/-- The outcome of a rule: nothing, or how the field breaks it. -/
abbrev Check := Except FieldError Unit

/-- The owner of a wallet is not blank. -/
def userId (s : String) : Check :=
  if Text.isBlankText s then .error (.required "user_id") else .ok ()

/-- A name is not blank and not too long, its outer blanks aside. -/
def productName (s : String) : Check :=
  let name := Text.trim s.toList
  if name.isEmpty then .error (.required "name")
  else if name.length > NewProduct.maxNameLength then
    .error (.tooLong "name" NewProduct.maxNameLength)
  else .ok ()

/-- A description is not too long. -/
def description (s : String) : Check :=
  if s.length > NewProduct.maxDescriptionLength then
    .error (.tooLong "description" NewProduct.maxDescriptionLength)
  else .ok ()

/-- A price is above zero. -/
def price (m : Money) : Check :=
  if m.isPositive then .ok () else .error (.mustBePositive "price")

/-- A stock is not below zero. -/
def stock (n : Int64) : Check :=
  if n.toInt < 0 then .error (.mustNotBeNegative "stock") else .ok ()

/-- The rules of a product. -/
def newProduct (p : NewProduct) : Check := do
  productName p.name
  description p.description
  price p.price
  stock p.stock

/-- An identifier is a spelling of a UUID. -/
def uuid (s : String) : Check :=
  if Text.isBlankText s then .error (.required "id")
  else if Uuid.isSpelling s then .ok ()
  else .error (.invalidFormat "id" "must be a valid UUID")

end Validation

end WalletLedger
