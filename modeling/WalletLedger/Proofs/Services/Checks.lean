import WalletLedger.LedgerError
import WalletLedger.Supply

/-!
# What passes the checks of the services

An amount or a quantity that passes its rule is above zero, and so is the price
of a product that passes its rules; its stock is not below. The rules of a
product refuse it for its first flaw (`newProduct_eq`), and sound fields are
those without one (`NewProduct.flaw?_eq_none`).
-/

namespace WalletLedger

theorem positive_of_amount {amount : Money} (h : Validation.amount amount = .ok ()) :
    0 < amount.value := by
  by_cases positive : amount.isPositive
  · exact of_decide_eq_true positive
  · simp [Validation.amount, positive] at h

theorem positive_of_quantity {quantity : Int64} (h : Validation.quantity quantity = .ok ()) :
    0 < quantity.toInt := by
  by_cases positive : 0 < quantity.toInt
  · exact positive
  · simp [Validation.quantity, positive] at h

/-! ## Fields of a product -/

namespace NewProduct

/-- How the fields of a product break the rules first, in the order name, description, price,
stock. -/
def flaw? (p : NewProduct) : Option FieldError :=
  if (Text.strip p.name).length = 0 then some (.required "name")
  else if 200 < (Text.strip p.name).length then some (.tooLong "name" 200)
  else if 1000 < p.description.length then some (.tooLong "description" 1000)
  else if p.price.value ≤ 0 then some (.mustBePositive "price")
  else if p.stock.toInt < 0 then some (.mustNotBeNegative "stock")
  else none

/-- The fields of a product keep to the rules. -/
structure IsSound (p : NewProduct) : Prop where
  named : 1 ≤ (Text.strip p.name).length
  shortName : (Text.strip p.name).length ≤ 200
  shortDescription : p.description.length ≤ 1000
  priced : 0 < p.price.value
  stocked : 0 ≤ p.stock.toInt

theorem flaw?_eq_none {p : NewProduct} : p.flaw? = none ↔ p.IsSound := by
  unfold flaw?
  constructor
  · intro flawless
    repeat' split at flawless
    all_goals first | cases flawless; done | skip
    constructor <;> omega
  · intro sound
    obtain ⟨named, shortName, shortDescription, priced, stocked⟩ := sound
    rw [if_neg (by omega), if_neg (by omega), if_neg (by omega), if_neg (by omega),
      if_neg (by omega)]

end NewProduct

theorem productName_eq (name : String) : Validation.productName name =
    if (Text.strip name).length = 0 then .error (.required "name")
    else if 200 < (Text.strip name).length then .error (.tooLong "name" 200)
    else .ok () := by
  have length : (Text.strip name).length = (Text.trim name.toList).length := String.length_ofList
  unfold Validation.productName
  rw [length]
  rcases Text.trim name.toList with _ | ⟨c, cs⟩ <;> rfl

theorem price_eq (m : Money) : Validation.price m =
    if m.value ≤ 0 then .error (.mustBePositive "price") else .ok () := by
  unfold Validation.price Money.isPositive
  by_cases positive : 0 < m.value
  · simp [positive]
  · simp [positive, Int.not_lt.mp positive]

/-- The rules refuse a product for its first flaw. -/
theorem newProduct_eq (p : NewProduct) : Validation.newProduct p =
    match p.flaw? with
    | some e => .error e
    | none => .ok () := by
  have described : Validation.description p.description =
      if 1000 < p.description.length then .error (.tooLong "description" 1000) else .ok () := rfl
  have stocked : Validation.stock p.stock =
      if p.stock.toInt < 0 then .error (.mustNotBeNegative "stock") else .ok () := rfl
  unfold Validation.newProduct NewProduct.flaw?
  rw [productName_eq, described, price_eq, stocked]
  -- both sides try the rules in one order, and stop at the first that is broken
  by_cases blank : (Text.strip p.name).length = 0
  · simp only [blank, ↓reduceIte]
    rfl
  by_cases longName : 200 < (Text.strip p.name).length
  · simp only [blank, longName, ↓reduceIte]
    rfl
  by_cases longDescription : 1000 < p.description.length
  · simp only [blank, longName, longDescription, ↓reduceIte]
    rfl
  by_cases unpriced : p.price.value ≤ 0
  · simp only [blank, longName, longDescription, unpriced, ↓reduceIte]
    rfl
  by_cases overdrawn : p.stock.toInt < 0
  · simp only [blank, longName, longDescription, unpriced, overdrawn, ↓reduceIte]
    rfl
  · simp only [blank, longName, longDescription, unpriced, overdrawn, ↓reduceIte]
    rfl

theorem bounds_of_newProduct {p : NewProduct} (h : Validation.newProduct p = .ok ()) :
    0 < p.price.value ∧ 0 ≤ p.stock.toInt := by
  rw [newProduct_eq] at h
  rcases flaw : p.flaw? with _ | e <;> rw [flaw] at h
  · have sound := NewProduct.flaw?_eq_none.mp flaw
    exact ⟨sound.priced, sound.stocked⟩
  · cases h

/-! ## Identifiers -/

/-- A new identifier is the name of a user. -/
theorem userId_id (s : Source) (n : Nat) : Validation.userId (s.id n) = .ok () := by
  rw [Validation.userId, s.isBlankText_id]
  rfl

/-- A new identifier that is a spelling of a UUID is taken for one. -/
theorem uuid_id {s : Source} {n : Nat} (spelled : Uuid.isSpelling (s.id n)) :
    Validation.uuid (s.id n) = .ok () := by
  simp only [Validation.uuid, s.isBlankText_id, spelled, Bool.false_eq_true, ↓reduceIte]

/-- Every identifier given out so far is a spelling of a UUID. -/
def Supply.SpellsUuids (s : Supply) : Prop :=
  ∀ n < s.ids, Uuid.isSpelling (s.source.id n)

end WalletLedger
