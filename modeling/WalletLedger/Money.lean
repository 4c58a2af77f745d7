import WalletLedger.Text.Numeral
import WalletLedger.Word

/-!
# Money

An amount of money is a signed 64-bit count of cents. The checked operations
answer nothing when the exact result does not fit (`Money.add?_eq_some_iff`
and its companions); the unchecked ones abort the computation instead. The text of
an amount is its sign, the whole units, a point and two digits.
-/

namespace WalletLedger

/-- An amount of money in cents. -/
structure Money where
  cents : Int64
deriving DecidableEq, Repr, Inhabited

/-- The arithmetic fault at which a computation stops without an answer. -/
inductive Abort
  | addition
  | subtraction
deriving DecidableEq, Repr

/-- The text with which an aborted computation ends. -/
def Abort.message : Abort → String
  | .addition => "attempt to add with overflow"
  | .subtraction => "attempt to subtract with overflow"

/-- The difference of two words; it aborts when the exact difference does not fit. -/
def subtract (a b : Int64) : Except Abort Int64 :=
  match fit? (a.toInt - b.toInt) with
  | some w => .ok w
  | none => .error .subtraction

namespace Money

/-- No money. -/
def zero : Money := ⟨0⟩

/-- The exact number of cents. -/
def value (m : Money) : Int := m.cents.toInt

instance : LE Money := ⟨fun a b => a.value ≤ b.value⟩
instance : LT Money := ⟨fun a b => a.value < b.value⟩
instance (a b : Money) : Decidable (a ≤ b) := inferInstanceAs (Decidable (a.value ≤ b.value))
instance (a b : Money) : Decidable (a < b) := inferInstanceAs (Decidable (a.value < b.value))

/-- The order of two amounts. -/
def order (a b : Money) : Ordering := compare a.value b.value

/-- Whether an amount is above zero. -/
def isPositive (m : Money) : Bool := 0 < m.value

/-- Whether an amount is below zero. -/
def isNegative (m : Money) : Bool := m.value < 0

/-- Whether an amount is zero. -/
def isZero (m : Money) : Bool := m.value == 0

/-- The sum, when it fits. -/
def add? (a b : Money) : Option Money := (fit? (a.value + b.value)).map Money.mk

/-- The difference, when it fits. -/
def sub? (a b : Money) : Option Money := (fit? (a.value - b.value)).map Money.mk

/-- The amount taken `n` times, when it fits. -/
def mul? (a : Money) (n : Int64) : Option Money := (fit? (a.value * n.toInt)).map Money.mk

/-- The sum; it aborts when the exact sum does not fit. -/
def add (a b : Money) : Except Abort Money :=
  match add? a b with
  | some m => .ok m
  | none => .error .addition

/-- The difference; it aborts when the exact difference does not fit. -/
def sub (a b : Money) : Except Abort Money :=
  match sub? a b with
  | some m => .ok m
  | none => .error .subtraction

/-- The whole units, the cents dropped. -/
def major (m : Money) : Int := m.value.tdiv 100

/-- The cents beyond the whole units, without the sign. -/
def minor (m : Money) : Nat := m.value.natAbs % 100

/-- The text of an amount: a minus sign when it is negative, the whole units,
a point and two digits. -/
def text (m : Money) : String :=
  String.ofList ((if m.isNegative then ['-'] else []) ++ Text.decimal m.major.natAbs ++ '.' ::
    Text.padded 2 m.minor)

theorem ext_value {a b : Money} (h : a.value = b.value) : a = b := by
  cases a; cases b
  exact congrArg Money.mk (Int64.toInt_inj.1 h)

theorem add?_eq_some_iff {a b c : Money} : add? a b = some c ↔ c.value = a.value + b.value := by
  obtain ⟨c⟩ := c
  simp [add?, value, fit?_eq_some_iff]

theorem sub?_eq_some_iff {a b c : Money} : sub? a b = some c ↔ c.value = a.value - b.value := by
  obtain ⟨c⟩ := c
  simp [sub?, value, fit?_eq_some_iff]

theorem mul?_eq_some_iff {a c : Money} {n : Int64} :
    mul? a n = some c ↔ c.value = a.value * n.toInt := by
  obtain ⟨c⟩ := c
  simp [mul?, value, fit?_eq_some_iff]

theorem sub_eq_ok_iff {a b c : Money} : sub a b = .ok c ↔ c.value = a.value - b.value := by
  unfold sub
  split
  · next m h => rw [← sub?_eq_some_iff, h]; simp
  · next h =>
    rw [← sub?_eq_some_iff, h]; simp

end Money

end WalletLedger
