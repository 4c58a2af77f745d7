/-!
# JSON values

JSON as it is written: members keep their order and may repeat, a number is
kept as its literal, and a string whose escapes leave a surrogate unpaired
names no text. What a value has to satisfy before it can be held apart from
the text it came from is `isHoldable`.
-/

namespace WalletLedger

/-- A number literal. The literal `-0` is no integer but a decimal. -/
inductive Json.Number
  /-- A literal without fraction and exponent. -/
  | integer (value : Int)
  /-- The value `significand · 10 ^ exponent`, negated when `negative`. -/
  | decimal (negative : Bool) (significand : Nat) (exponent : Int)
deriving DecidableEq, Repr, Inhabited

/-- A JSON value. A string or key is `none` when it holds an unpaired surrogate. -/
inductive Json
  | null
  | bool (value : Bool)
  | number (value : Json.Number)
  | string (value : Option String)
  | array (elements : List Json)
  | object (members : List (Option String × Json))
deriving Inhabited

namespace Json

/-- A text. -/
def text (s : String) : Json := .string (some s)

/-- A whole number. -/
def integer (n : Int) : Json := .number (.integer n)

/-- A member of an object. -/
def member (key : String) (value : Json) : Option String × Json := (some key, value)

/-- The midpoint between the greatest double and the next power of two. -/
def Number.limit : Nat := (1 <<< 1024) - (1 <<< 970)

/-- Whether a number rounds to a finite double: it lies below the limit. -/
def Number.isFinite : Number → Bool
  | .integer n => n.natAbs < limit
  | .decimal _ significand exponent =>
    if significand = 0 then true
    else if exponent < 0 then
      significand.log2 ≤ exponent.natAbs ||
        decide (significand < limit * Nat.pow 10 exponent.natAbs)
    else exponent ≤ 400 && decide (significand * Nat.pow 10 exponent.toNat < limit)

mutual

/-- Whether a value can be held inside containers that leave `room` for more
levels: its strings name texts, its numbers are finite, and its arrays and
objects are not nested deeper than the room. -/
def isHoldable (room : Nat) : Json → Bool
  | .null => true
  | .bool _ => true
  | .number n => n.isFinite
  | .string s => s.isSome
  | .array xs => 0 < room && areHoldable (room - 1) xs
  | .object ms => 0 < room && membersAreHoldable (room - 1) ms

/-- Whether every element can be held. -/
def areHoldable (room : Nat) : List Json → Bool
  | [] => true
  | x :: xs => isHoldable room x && areHoldable room xs

/-- Whether every key and member can be held. -/
def membersAreHoldable (room : Nat) : List (Option String × Json) → Bool
  | [] => true
  | (key, value) :: ms => key.isSome && isHoldable room value && membersAreHoldable room ms

end

end Json

end WalletLedger
