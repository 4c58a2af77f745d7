import WalletLedger.Proofs.Timestamp.Calendar
import WalletLedger.Timestamp.Printer
import WalletLedger.Timestamp.Reader

/-!
# Reading written timestamps

A timestamp that is valid is read back from its text (`read?_text`): every field
is written with as many digits as it is read with, or ends before a character
that is no digit. And whatever text is read, what it names is valid
(`IsValid.of_read?`).
-/

namespace WalletLedger

open Text

namespace Timestamp

/-- A timestamp that a text can name: its year is in range, and only the last
second of a minute may be a leap second. -/
def IsValid (t : Timestamp) : Prop :=
  yearInRange t.date.year ∧
    (t.nanos < 1000000000 ∨ t.nanos < 2000000000 ∧ t.seconds % 60 = 59)

instance (t : Timestamp) : Decidable t.IsValid := inferInstanceAs (Decidable (_ ∧ _))

/-- A time of a year of four digits that is no leap second is valid. -/
theorem IsValid.of_year {t : Timestamp} (year : 0 ≤ t.date.year ∧ t.date.year ≤ 9999)
    (nanos : t.nanos < 1000000000) : t.IsValid := by
  refine ⟨?_, .inl nanos⟩
  simp only [yearInRange, Bool.and_eq_true, decide_eq_true_eq]
  omega

/-! ## Fields -/

section Fields

variable {rest : List Char}

/-- Digits are read that fill the width, or end before a character that is none. -/
theorem digits_append {ds : List Char} {width : Nat} (all : ∀ c ∈ ds, isDigit c) (some_ : ds ≠ [])
    (fits : ds.length ≤ width)
    (stops : ds.length = width ∨ ∀ c tail, rest = c :: tail → isDigit c = false) :
    digits width (ds ++ rest) = some (digitsValue ds, rest) := by
  have nothing : (rest.take (width - ds.length)).takeWhile isDigit = [] := by
    rcases stops with full | stops
    · simp [full]
    · rcases rest with _ | ⟨c, tail⟩
      · simp
      · rcases width - ds.length with _ | k
        · rfl
        · simp [stops c tail rfl]
  have run : ((ds ++ rest).take width).takeWhile isDigit = ds := by
    rw [List.take_append, List.take_of_length_le fits, List.takeWhile_append_of_pos all, nothing,
      List.append_nil]
  simp [digits, run, some_]

theorem isBlank_of_isDigit {c : Char} (h : isDigit c) : isBlank c = false := by
  have all : ∀ d : Fin 10, isBlank (digitChar d) = false := by decide
  have range : 48 ≤ c.toNat ∧ c.toNat ≤ 57 := by
    simp only [isDigit, Bool.and_eq_true, decide_eq_true_eq] at h
    exact ⟨UInt32.le_iff_toNat_le.mp h.1, UInt32.le_iff_toNat_le.mp h.2⟩
  have digit : digitChar (c.toNat - 48) = c := by
    rw [digitChar, show '0'.toNat + (c.toNat - 48) = c.toNat from by
      show 48 + (c.toNat - 48) = c.toNat
      omega]
    exact Char.ofNat_toNat c
  rw [← digit]
  exact all ⟨c.toNat - 48, by omega⟩

/-- A number of a width starts with a digit. -/
theorem padded_cons (width n : Nat) : ∃ c tail, padded width n = c :: tail ∧ isDigit c := by
  rcases eq : padded width n with _ | ⟨c, tail⟩
  · exact absurd eq (padded_ne_nil width n)
  · exact ⟨c, tail, rfl, isDigit_of_mem_padded (eq ▸ List.mem_cons_self)⟩

theorem trimStart_padded (width n : Nat) (rest : List Char) :
    trimStart (padded width n ++ rest) = padded width n ++ rest := by
  obtain ⟨c, tail, eq, digit⟩ := padded_cons width n
  simp [eq, trimStart, isBlank_of_isDigit digit]

theorem field_padded (low high : Nat) {n : Nat} (within : low ≤ n ∧ n ≤ high) (small : n < 100) :
    field low high (padded 2 n ++ rest) = some (n, rest) := by
  have read : digits 2 (padded 2 n ++ rest) = some (digitsValue (padded 2 n), rest) :=
    digits_append (fun _ mem => isDigit_of_mem_padded mem) (padded_ne_nil 2 n)
      (Nat.le_of_eq (length_padded small)) (.inl (length_padded small))
  rw [field, trimStart_padded, read, digitsValue_padded]
  exact if_pos within

theorem separator_cons {c : Char} (visible : isBlank c = false) :
    separator c (c :: rest) = some rest := by
  simp [separator, trimStart, visible]

theorem allDigits_padded (n : Nat) :
    allDigits (padded 4 n ++ '-' :: rest) = some (n, '-' :: rest) := by
  have read : allDigits (padded 4 n ++ '-' :: rest) =
      some (digitsValue (padded 4 n), '-' :: rest) :=
    digits_append (fun _ mem => isDigit_of_mem_padded mem) (padded_ne_nil 4 n) (by simp)
      (.inr fun c tail eq => by cases eq; rfl)
  rw [read, digitsValue_padded]

theorem year_yearText (y : Int) : year (yearText y ++ '-' :: rest) = some (y, '-' :: rest) := by
  unfold yearText
  split
  · next short =>
    have small : y.toNat < 10000 := by omega
    have read : digits 4 (padded 4 y.toNat ++ '-' :: rest) =
        some (digitsValue (padded 4 y.toNat), '-' :: rest) :=
      digits_append (fun _ mem => isDigit_of_mem_padded mem) (padded_ne_nil 4 _)
        (Nat.le_of_eq (length_padded small)) (.inl (length_padded small))
    rw [digitsValue_padded] at read
    rw [year, trimStart_padded]
    obtain ⟨c, tail, eq, digit⟩ := padded_cons 4 y.toNat
    rw [eq, List.cons_append] at read ⊢
    split
    · next minus => cases minus; cases digit
    · next plus => cases plus; cases digit
    · rw [read]
      exact congrArg (fun z => some (z, '-' :: rest)) (Int.toNat_of_nonneg short.1)
  · split
    · next negative =>
      show (allDigits (padded 4 y.natAbs ++ '-' :: rest)).map _ = _
      rw [allDigits_padded]
      exact congrArg (fun z => some (z, '-' :: rest)) (show -(y.natAbs : Int) = y by omega)
    · next notNegative =>
      show (allDigits (padded 4 y.natAbs ++ '-' :: rest)).map _ = _
      rw [allDigits_padded]
      exact congrArg (fun z => some (z, '-' :: rest)) (show (y.natAbs : Int) = y by omega)

/-- Digits of a fraction, with the zeros that fill it up to nanoseconds. -/
theorem fraction_padded {width n : Nat} (small : n < Nat.pow 10 (width + 1)) (fits : width < 9) :
    fraction ('.' :: padded (width + 1) n ++ ['Z']) = some (n * Nat.pow 10 (8 - width), ['Z']) := by
  have length := length_padded small
  have read : digits 9 (padded (width + 1) n ++ ['Z']) =
      some (digitsValue (padded (width + 1) n), ['Z']) :=
    digits_append (fun _ mem => isDigit_of_mem_padded mem) (padded_ne_nil _ n) (by omega)
      (.inr fun c tail eq => by cases eq; rfl)
  rw [List.cons_append, fraction, read, digitsValue_padded]
  simp only [Option.bind_eq_bind, Option.bind_some, List.length_append, length, List.length_cons,
    List.length_nil]
  rw [show 9 - (width + 1 + (0 + 1) - (0 + 1)) = 8 - width by omega]
  rfl

theorem fraction_fractionText {n : Nat} (h : n < 1000000000) :
    fraction (fractionText n ++ ['Z']) = some (n, ['Z']) := by
  unfold fractionText
  split
  · next zero =>
    subst zero
    rfl
  split
  · next millis =>
    rw [fraction_padded (show n / 1000000 < 1000 by omega) (by decide)]
    simp
    omega
  split
  · next micros =>
    rw [fraction_padded (show n / 1000 < 1000000 by omega) (by decide)]
    simp
    omega
  · rw [fraction_padded h (by decide)]
    simp

end Fields

theorem IsValid.second_le {t : Timestamp} (valid : t.IsValid) :
    t.secondOfDay % 60 + t.nanos / 1000000000 ≤ 60 := by
  obtain ⟨-, leap⟩ := valid
  unfold secondOfDay
  omega

/-- The fields of a valid timestamp make it up. -/
theorem IsValid.instant_eq {t : Timestamp} (valid : t.IsValid) :
    let second := t.secondOfDay % 60 + t.nanos / 1000000000
    let leap := if second = 60 then 1 else 0
    (⟨t.date.toDays * 86400 + (t.secondOfDay / 3600 : Nat) * 3600 +
      (t.secondOfDay / 60 % 60 : Nat) * 60 + (second - leap : Nat) - 0,
      t.nanos % 1000000000 + leap * 1000000000⟩ : Timestamp) = t := by
  obtain ⟨-, leaps⟩ := valid
  have days : t.date.toDays = t.seconds / 86400 := CivilDate.toDays_ofDays _
  obtain ⟨seconds, nanos⟩ := t
  simp only [days, secondOfDay, Timestamp.mk.injEq] at leaps ⊢
  by_cases leap : (seconds % 86400).toNat % 60 + nanos / 1000000000 = 60 <;>
    simp only [leap, ↓reduceIte] <;> omega

theorem bind_some_eq {α β : Type} {x : Option α} {a : α} (found : x = some a)
    (f : α → Option β) : (x >>= f) = f a := by
  rw [found]
  rfl

/-- A valid timestamp is read back from its text. -/
theorem read?_text {t : Timestamp} (valid : t.IsValid) : read? t.text = some t := by
  have dates : t.date.isValid := CivilDate.isValid_ofDays _
  obtain ⟨month, day⟩ := CivilDate.ofDays_within (t.seconds / 86400)
  have second := valid.second_le
  have ofDay : t.secondOfDay < 86400 := by
    unfold secondOfDay
    omega
  have chars : t.text.toList = yearText t.date.year ++ '-' :: (padded 2 t.date.month ++ '-' ::
      (padded 2 t.date.day ++ 'T' :: (padded 2 (t.secondOfDay / 3600) ++ ':' ::
        (padded 2 (t.secondOfDay / 60 % 60) ++ ':' ::
          (padded 2 (t.secondOfDay % 60 + t.nanos / 1000000000) ++
            (fractionText (t.nanos % 1000000000) ++ ['Z'])))))) := by
    simp only [text, String.toList_ofList, List.append_assoc, List.cons_append]
  unfold read?
  rw [chars]
  refine (bind_some_eq (year_yearText _) _).trans ?_
  refine (bind_some_eq (separator_cons rfl) _).trans ?_
  refine (bind_some_eq (field_padded 1 12 month (by omega)) _).trans ?_
  refine (bind_some_eq (separator_cons rfl) _).trans ?_
  refine (bind_some_eq (field_padded 1 31 day (by omega)) _).trans ?_
  refine (bind_some_eq (show (if 'T' = 'T' ∨ 'T' = 't' ∨ 'T' = ' ' then some _ else none) = some _
    from if_pos (.inl rfl)) _).trans ?_
  refine (bind_some_eq (field_padded 0 23 (by omega) (by omega)) _).trans ?_
  refine (bind_some_eq (separator_cons rfl) _).trans ?_
  refine (bind_some_eq (field_padded 0 59 (by omega) (by omega)) _).trans ?_
  refine (bind_some_eq (separator_cons rfl) _).trans ?_
  refine (bind_some_eq (field_padded 0 60 ⟨Nat.zero_le _, second⟩ (by omega)) _).trans ?_
  refine (bind_some_eq (fraction_fractionText (Nat.mod_lt t.nanos (by decide))) _).trans ?_
  refine (bind_some_eq (show offset (trimStart ['Z']) = some (0, []) from rfl) _).trans ?_
  refine (if_pos ⟨rfl, dates, valid.1, by decide⟩).trans ?_
  have kept := congrArg (fun i : Timestamp => if yearInRange i.date.year then some i else none)
    valid.instant_eq
  exact kept.trans (if_pos valid.1)

/-! ## Whatever is read -/

/-- Digits name less than the power of ten of their number, and are no more than the width. -/
theorem digits_bound {width n : Nat} {cs rest : List Char}
    (found : digits width cs = some (n, rest)) :
    cs.length - rest.length ≤ width ∧ n < Nat.pow 10 (cs.length - rest.length) := by
  simp only [digits] at found
  split at found
  · cases found
  · cases found
    have fits : ((cs.take width).takeWhile isDigit).length ≤ min width cs.length :=
      List.length_take ▸ (List.takeWhile_prefix isDigit).length_le
    have value := digitsValue_lt (List.all_takeWhile (l := cs.take width) (p := isDigit))
    generalize (cs.take width).takeWhile isDigit = ds at *
    have used : cs.length - (cs.drop ds.length).length = ds.length := by
      rw [List.length_drop]
      omega
    rw [used]
    exact ⟨by omega, value⟩

theorem fraction_bound {n : Nat} {cs rest : List Char} (found : fraction cs = some (n, rest)) :
    n < 1000000000 := by
  unfold fraction at found
  split at found
  · next text =>
    simp only [Option.bind_eq_bind, Option.bind_eq_some_iff, Option.some.injEq,
      Prod.mk.injEq] at found
    obtain ⟨⟨value, after⟩, read, rfl, -⟩ := found
    obtain ⟨fits, small⟩ := digits_bound read
    generalize text.length - after.length = used at *
    show value * 10 ^ (9 - used) < 10 ^ 9
    calc value * 10 ^ (9 - used) < 10 ^ used * 10 ^ (9 - used) :=
          Nat.mul_lt_mul_of_pos_right small (Nat.pow_pos (by decide))
      _ = 10 ^ 9 := by rw [← Nat.pow_add, Nat.add_sub_cancel' fits]
  · cases found
    decide

/-- An offset is a whole number of minutes. -/
theorem offset_minutes {o : Int} {cs rest : List Char} (found : offset cs = some (o, rest)) :
    o % 60 = 0 := by
  unfold offset at found
  split at found
  case h_1 | h_2 =>
    cases found
    rfl
  case h_4 => cases found
  case h_3 =>
    split at found
    case isTrue =>
      cases found
      rfl
    case isFalse =>
      split at found
      case' isFalse => split at found
      all_goals
        simp only [Option.bind_eq_bind, Option.bind_some, Option.bind_none,
          Option.bind_eq_some_iff, Option.ite_none_right_eq_some, Option.some.injEq,
          Prod.mk.injEq, reduceCtorEq] at found
      all_goals
        obtain ⟨⟨hours, _⟩, -, ⟨minutes, _⟩, -, -, rfl, -⟩ := found
        dsimp only [reduceIte]
        omega

theorem field_le {low high n : Nat} {cs rest : List Char}
    (found : field low high cs = some (n, rest)) : n ≤ high := by
  simp only [field, Option.bind_eq_bind, Option.bind_eq_some_iff, Option.ite_none_right_eq_some,
    Option.some.injEq, Prod.mk.injEq] at found
  obtain ⟨_, -, within, rfl, -⟩ := found
  exact within.2

/-- A timestamp that is read is valid. -/
theorem IsValid.of_read? {s : String} {t : Timestamp} (found : read? s = some t) : t.IsValid := by
  unfold read? at found
  -- the date, one item after another
  obtain ⟨⟨year, _⟩, -, found⟩ := Option.bind_eq_some_iff.mp found
  obtain ⟨_, -, found⟩ := Option.bind_eq_some_iff.mp found
  obtain ⟨⟨month, _⟩, -, found⟩ := Option.bind_eq_some_iff.mp found
  obtain ⟨_, -, found⟩ := Option.bind_eq_some_iff.mp found
  obtain ⟨⟨day, _⟩, -, found⟩ := Option.bind_eq_some_iff.mp found
  dsimp only at found
  split at found
  case h_2 => cases found
  split at found
  case isFalse => cases found
  -- the time of day, and the offset
  obtain ⟨_, -, found⟩ := Option.bind_eq_some_iff.mp found
  obtain ⟨⟨hour, _⟩, -, found⟩ := Option.bind_eq_some_iff.mp found
  obtain ⟨_, -, found⟩ := Option.bind_eq_some_iff.mp found
  obtain ⟨⟨minute, _⟩, -, found⟩ := Option.bind_eq_some_iff.mp found
  obtain ⟨_, -, found⟩ := Option.bind_eq_some_iff.mp found
  obtain ⟨⟨second, _⟩, seconds, found⟩ := Option.bind_eq_some_iff.mp found
  obtain ⟨⟨nanos, _⟩, fraction, found⟩ := Option.bind_eq_some_iff.mp found
  obtain ⟨⟨shift, _⟩, offset, found⟩ := Option.bind_eq_some_iff.mp found
  simp only [Option.ite_none_right_eq_some, Option.some.injEq] at found
  obtain ⟨-, inRange, rfl⟩ := found
  have second_le := field_le seconds
  have nanos_lt := fraction_bound fraction
  have whole := offset_minutes offset
  refine ⟨inRange, ?_⟩
  dsimp only
  split <;> omega

end Timestamp

end WalletLedger
