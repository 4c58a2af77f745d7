import WalletLedger.Json.Basic
import WalletLedger.Text.Numeral

/-!
# Doubles in decimal

A number literal that is no 64-bit integer stands for the double nearest to
it. A double `m · 2 ^ q` is written with the fewest digits that read back as
the same double, and among those with the digits nearest to it.
-/

namespace WalletLedger.Json

/-- A finite double without its sign: the value `mantissa · 2 ^ exponent`. -/
structure Double where
  mantissa : Nat
  exponent : Int
deriving DecidableEq, Repr

/-- The quotient rounded to the nearest whole number, a half to the even one. -/
def roundDiv (num den : Nat) : Nat :=
  let q := num / den
  let r := num % den
  if 2 * r < den ∨ (2 * r = den ∧ q % 2 = 0) then q else q + 1

/-- A fraction times a power of two, as a fraction. -/
def scale (num den : Nat) (power : Int) : Nat × Nat :=
  if power < 0 then (num, den <<< power.natAbs) else (num <<< power.toNat, den)

/-- The double nearest to a positive fraction. -/
def Double.nearest (num den : Nat) : Double :=
  let guess : Int := (num.log2 : Int) - den.log2 - 53
  let (a, b) := scale num den (-guess)
  let exponent := max (if a / b < 1 <<< 53 then guess else guess + 1) (-1074)
  let (a, b) := scale num den (-exponent)
  ⟨roundDiv a b, exponent⟩

/-- The double nearest to `significand · 10 ^ exponent`. -/
def Double.ofDecimal (significand : Nat) (exponent : Int) : Double :=
  if significand = 0 then ⟨0, 0⟩
  else if exponent < 0 then
    if significand.log2 + 1100 < exponent.natAbs then ⟨0, 0⟩
    else nearest significand (Nat.pow 10 exponent.natAbs)
  else nearest (significand * Nat.pow 10 exponent.toNat) 1

/-- Whether the point `n / d` is rounded to a double. Half of the way down to
its neighbour is shorter at the bottom of a binade; an end of the interval
belongs to it when the mantissa is even. -/
def Double.holds (x : Double) (n d : Nat) : Bool :=
  let below := 4 * x.mantissa - if x.mantissa = 1 <<< 52 ∧ -1074 < x.exponent then 1 else 2
  let (a, b) := scale n d (2 - x.exponent)
  let above := 4 * x.mantissa + 2
  if x.mantissa % 2 = 0 then below * b ≤ a && a ≤ above * b else below * b < a && a < above * b

/-- The fraction that a double is. -/
def Double.fraction (x : Double) : Nat × Nat := scale x.mantissa 1 x.exponent

/-- The multiple of `10 ^ place` nearest to a double among its two neighbours
that are rounded to it, counted in units of that place. -/
def Double.onGrid? (x : Double) (place : Int) : Option Nat :=
  let (a, b) := x.fraction
  let (a, b) :=
    if place < 0 then (a * Nat.pow 10 place.natAbs, b) else (a, b * Nat.pow 10 place.toNat)
  let point (k : Nat) : Nat × Nat :=
    if place < 0 then (k, Nat.pow 10 place.natAbs) else (k * Nat.pow 10 place.toNat, 1)
  let fits (k : Nat) := x.holds (point k).1 (point k).2
  let near := roundDiv a b
  let other := if near = a / b then near + 1 else a / b
  if fits near then some near else if fits other then some other else none

/-- The places from the highest, at which one digit may do, down. -/
def Double.places (x : Double) : List Int :=
  let (a, b) := x.fraction
  let top : Int := (Text.decimal (a / b)).length
  let lead : Int := if a / b = 0 then -((Text.decimal (b / a)).length : Int) else top
  (List.range 20).map fun (n : Nat) => lead - (n : Int)

/-- The fewest digits that read back, and their place: a positive double
rounds to `digits · 10 ^ place`. -/
def Double.shortest (x : Double) : Nat × Int :=
  (x.places.findSome? fun place =>
    match x.onGrid? place with
    | some 0 => none
    | some k => some (k, place)
    | none => none).getD (0, 0)

/-- The digits without trailing zeros, and the place that they move to. -/
def dropZeros (digits : List Char) (place : Int) : List Char × Int :=
  let kept := (digits.reverse.dropWhile (· == '0')).reverse
  (kept, place + (digits.length - kept.length))

/-- The text of a double: positional from 10⁻⁵ up to 10¹⁶, with at least one
digit on both sides of the point; else with an exponent. -/
def Double.text (x : Double) : List Char :=
  if x.mantissa = 0 then ['0', '.', '0']
  else
    let (digits, place) := dropZeros (Text.decimal x.shortest.1) x.shortest.2
    let point := digits.length + place
    let zeros (n : Int) := List.replicate n.toNat '0'
    if 0 ≤ place ∧ point ≤ 16 then digits ++ zeros place ++ ['.', '0']
    else if 0 < point ∧ point ≤ 16 then
      digits.take point.toNat ++ '.' :: digits.drop point.toNat
    else if -5 < point ∧ point ≤ 0 then '0' :: '.' :: zeros (-point) ++ digits
    else
      let tail := digits.drop 1
      let fraction := if tail.isEmpty then [] else '.' :: tail
      digits.take 1 ++ fraction ++ 'e' :: Text.decimalInt (point - 1)

/-- Whether a whole number is held as an integer: signed or unsigned, in 64 bits. -/
def isHeldExactly (n : Int) : Bool :=
  Int64.minValue.toInt ≤ n && n < UInt64.size

/-- The text of a number. -/
def Number.text : Number → List Char
  | .integer n =>
    if isHeldExactly n then Text.decimalInt n
    else (if n < 0 then ['-'] else []) ++ (Double.ofDecimal n.natAbs 0).text
  | .decimal negative significand exponent =>
    (if negative then ['-'] else []) ++ (Double.ofDecimal significand exponent).text

end WalletLedger.Json
