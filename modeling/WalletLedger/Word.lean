/-!
# Whole numbers that fit in 64 bits

Amounts, quantities and stocks are signed 64-bit words. Arithmetic on them is
done on whole numbers and brought back by `fit?`, which answers nothing
exactly when the result lies outside the range (`fit?_eq_some_iff`).
-/

namespace WalletLedger

/-- Whether a whole number lies in the signed 64-bit range. -/
def Fits (n : Int) : Prop :=
  -9223372036854775808 ≤ n ∧ n ≤ 9223372036854775807

instance (n : Int) : Decidable (Fits n) := by
  unfold Fits; infer_instance

/-- The word with a given value, when there is one. -/
def fit? (n : Int) : Option Int64 :=
  if Fits n then some (Int64.ofInt n) else none

theorem fits_toInt (w : Int64) : Fits w.toInt :=
  ⟨w.le_toInt, Int.lt_add_one_iff.1 w.toInt_lt⟩

theorem fit?_eq_some_iff {n : Int} {w : Int64} : fit? n = some w ↔ w.toInt = n := by
  unfold fit?
  split
  · next h =>
    rw [Option.some.injEq, ← Int64.toInt_inj,
      Int64.toInt_ofInt_of_le h.1 (Int.lt_add_one_iff.2 h.2), eq_comm]
  · next h =>
    refine ⟨fun e => by simp at e, fun e => (h ?_).elim⟩
    rw [← e]
    exact fits_toInt w

theorem fit?_eq_none_iff {n : Int} : fit? n = none ↔ ¬ Fits n := by
  unfold fit?; split <;> simp_all

theorem fit?_toInt (w : Int64) : fit? w.toInt = some w :=
  fit?_eq_some_iff.2 rfl

end WalletLedger
