import WalletLedger.Money

/-!
# Amounts as text

The text of an amount is taken apart: a minus sign exactly if the amount is below
zero, whole units without leading zeros, a point, and two digits. Without the point
it is a numeral of the cents (`numeral_unpointed`), so it says which amount it is of,
the least one included, and no step on the way to it leaves the range of words
(`text_names_its_amount`).
-/

namespace WalletLedger

namespace Text

/-- Digits without a leading zero, unless they are those of zero. -/
structure IsUnpadded (digits : List Char) : Prop where
  nonempty : digits ≠ []
  all : digits.all isDigit
  noLeadingZero : digits.head? = some '0' → digits = ['0']

theorem isUnpadded_decimal (n : Nat) : IsUnpadded (decimal n) := by
  refine ⟨decimal_ne_nil n, all_isDigit_decimal n, fun zero => ?_⟩
  rcases Nat.eq_zero_or_pos n with rfl | pos
  · exact decimal_zero
  · obtain ⟨c, tail, eq, -, nonzero⟩ := decimal_cons pos
    rw [eq] at zero
    exact absurd (Option.some.inj zero) nonzero

theorem decimalInt_natCast (n : Nat) : decimalInt n = decimal n := by
  unfold decimalInt
  rw [if_neg (by omega), Int.natAbs_natCast]

/-- Digits are left when the points are taken out of a text. -/
theorem filter_of_all_digits {cs : List Char} (all : ∀ c ∈ cs, isDigit c) :
    cs.filter (· ≠ '.') = cs := by
  refine List.filter_eq_self.mpr fun c mem => ?_
  have digit := all c mem
  rw [decide_eq_true_eq]
  rintro rfl
  exact absurd digit (by decide)

end Text

namespace Money

open Text

variable {m : Money}

/-- The sign of an amount. -/
def sign (m : Money) : List Char :=
  if m.value < 0 then ['-'] else []

/-- The text of an amount on words, each taken from the one before it; none when one of them
leaves their range. -/
def text? (m : Money) : Option String := do
  let units ← fit? (m.cents.toInt.tdiv 100)
  let shown ← fit? units.toInt.natAbs
  let rest ← fit? (m.cents.toInt.tmod 100)
  let minor ← fit? rest.toInt.natAbs
  return String.ofList (m.sign ++ decimalInt shown.toInt ++ '.' :: padded 2 minor.toInt.toNat)

/-! ## The parts of a text -/

theorem toList_text (m : Money) :
    m.text.toList = m.sign ++ decimal m.major.natAbs ++ '.' :: padded 2 m.minor := by
  unfold text sign isNegative
  rw [String.toList_ofList]
  simp only [decide_eq_true_eq]

theorem minor_lt (m : Money) : m.minor < 100 := Nat.mod_lt _ (by decide)

/-- The cents are those of the whole units and those beyond them. -/
theorem natAbs_value (m : Money) : m.value.natAbs = m.major.natAbs * 100 + m.minor := by
  unfold major minor
  rw [Int.natAbs_tdiv]
  show _ = _ / 100 * 100 + _
  omega

theorem length_minor (m : Money) : (padded 2 m.minor).length = 2 := by
  have below : m.minor < Nat.pow 10 (1 + 1) := m.minor_lt
  exact length_padded below

/-! ## Reading it without the point -/

theorem digitsValue_parts (m : Money) :
    digitsValue (decimal m.major.natAbs ++ padded 2 m.minor) = m.value.natAbs := by
  rw [digitsValue_append, length_minor, digitsValue_decimal, digitsValue_padded, natAbs_value]

/-- Without its point the text is a numeral of the cents. -/
theorem numeral_unpointed (m : Money) : Numeral (m.text.toList.filter (· ≠ '.')) m.value := by
  have units := filter_of_all_digits (List.all_eq_true.mp (all_isDigit_decimal m.major.natAbs))
  have rest := filter_of_all_digits fun c (mem : c ∈ padded 2 m.minor) => isDigit_of_mem_padded mem
  have digits : m.text.toList.filter (· ≠ '.') =
      m.sign ++ (decimal m.major.natAbs ++ padded 2 m.minor) := by
    have signed : m.sign.filter (· ≠ '.') = m.sign := by
      unfold sign
      split <;> rfl
    rw [toList_text, List.filter_append, List.filter_append, List.filter_cons_of_neg (by decide),
      signed, units, rest, List.append_assoc]
  have nonempty : decimal m.major.natAbs ++ padded 2 m.minor ≠ [] :=
    fun nil => decimal_ne_nil _ (List.append_eq_nil_iff.mp nil).1
  have all : (decimal m.major.natAbs ++ padded 2 m.minor).all isDigit := by
    rw [List.all_append, all_isDigit_decimal, Bool.true_and]
    exact List.all_eq_true.mpr fun c => isDigit_of_mem_padded
  have value := m.digitsValue_parts
  rw [digits]
  unfold sign
  split
  · next below =>
    have names := Numeral.minus nonempty all
    rwa [value, show -(m.value.natAbs : Int) = m.value by omega] at names
  · next above =>
    have names := Numeral.unsigned nonempty all
    rwa [value, show (m.value.natAbs : Int) = m.value by omega] at names

/-! ## On words -/

/-- What lies within a hundredth of the range of words is a word. -/
theorem exists_word {n : Int} (low : -92233720368547758 ≤ n) (high : n ≤ 92233720368547758) :
    ∃ w : Int64, fit? n = some w ∧ w.toInt = n := by
  have fits : Fits n := by
    unfold Fits
    omega
  exact ⟨_, if_pos fits, fit?_eq_some_iff.mp (if_pos fits)⟩

/-- No step on the way to a text leaves the range of words. -/
theorem text?_eq (m : Money) : m.text? = some m.text := by
  have ⟨low, high⟩ := fits_toInt m.cents
  have least : m.value.natAbs ≤ 9223372036854775808 := by
    unfold value
    omega
  have whole := m.natAbs_value
  have few := m.minor_lt
  have rest : (m.value.tmod 100).natAbs = m.minor := Int.natAbs_tmod ..
  obtain ⟨units, unitsFit, unitsIs⟩ := exists_word (n := m.major) (by omega) (by omega)
  obtain ⟨shown, shownFit, shownIs⟩ := exists_word (n := m.major.natAbs) (by omega) (by omega)
  obtain ⟨beside, besideFit, besideIs⟩ := exists_word (n := m.value.tmod 100) (by omega) (by omega)
  obtain ⟨minor, minorFit, minorIs⟩ := exists_word (n := m.minor) (by omega) (by omega)
  have units_eq : m.cents.toInt.tdiv 100 = m.major := rfl
  have rest_eq : m.cents.toInt.tmod 100 = m.value.tmod 100 := rfl
  have parts : m.text? = some (String.ofList
      (m.sign ++ decimal m.major.natAbs ++ '.' :: padded 2 m.minor)) := by
    simp only [text?, Option.bind_eq_bind, Option.bind_some, Option.pure_def, units_eq, unitsFit,
      unitsIs, shownFit, shownIs, rest_eq, besideFit, besideIs, rest, minorFit, minorIs,
      decimalInt_natCast, Int.toNat_natCast]
  rw [parts, ← toList_text, String.ofList_toList]

/-- The text of an amount is made without leaving the range of words, also for the least
amount. It has a minus sign exactly if the amount is below zero, then whole units without
leading zeros, a point and two digits; without the point it names the cents; and it is the text
of no other amount. -/
theorem text_names_its_amount (m : Money) :
    m.text? = some m.text ∧
    (∃ units rest, m.text.toList = (if m.value < 0 then ['-'] else []) ++ units ++ '.' :: rest ∧
      IsUnpadded units ∧ rest.length = 2 ∧ rest.all isDigit) ∧
    Numeral (m.text.toList.filter (· ≠ '.')) m.value ∧
    ∀ other : Money, other.text = m.text → other = m := by
  refine ⟨m.text?_eq, ⟨_, _, m.toList_text, isUnpadded_decimal _, m.length_minor, ?_⟩,
    m.numeral_unpointed, fun other same => ?_⟩
  · exact List.all_eq_true.mpr fun c => isDigit_of_mem_padded
  · have names := other.numeral_unpointed
    rw [same] at names
    exact ext_value (names.unique m.numeral_unpointed)

/-- The whole units of a few cents below zero are those of zero, and the sign is kept. -/
example : (⟨-5⟩ : Money).text = "-0.05" ∧
    (⟨Int64.minValue⟩ : Money).text = "-92233720368547758.08" := by decide +kernel

end Money

end WalletLedger
