import WalletLedger.Timestamp.Basic

/-!
# The calendar

A day is the date that it was turned into (`toDays_ofDays`), and that date
exists (`isValid_ofDays`). Days are counted within eras of 400 years that start
in March. In an era a day belongs to the year that its count is divided into,
because the division grows with the days and is right on the first and the last
day of every year (`yearOfEra_eq`).
-/

namespace WalletLedger.CivilDate

/-! ## Years of an era -/

/-- The days of an era before a year. -/
def daysBefore (y : Nat) : Nat :=
  365 * y + y / 4 - y / 100 + y / 400

/-- The days of an era but for leap days, as far as they are taken out before
the days are divided into years. -/
def commonDays (d : Nat) : Nat :=
  d - d / 1460 + d / 36524 - d / 146096

theorem commonDays_mono {d e : Nat} (le : d ≤ e) (h : e < 146097) :
    commonDays d ≤ commonDays e := by
  induction le with
  | refl => exact Nat.le_refl _
  | @step e le ih =>
    refine Nat.le_trans (ih (by omega)) ?_
    unfold commonDays
    omega

/-- The division is right on the first and the last day of a year. -/
theorem commonDays_ends : ∀ y < 400, commonDays (daysBefore y) / 365 = y ∧
    commonDays (daysBefore (y + 1) - 1) / 365 = y := by
  decide +kernel

/-- A year has 365 days, or 366 if a leap year's February ends it. -/
theorem daysBefore_succ : ∀ y < 400, daysBefore (y + 1) = daysBefore y + 365 ∨
    daysBefore (y + 1) = daysBefore y + 366 ∧
      (y + 1) % 4 = 0 ∧ ((y + 1) % 100 ≠ 0 ∨ (y + 1) % 400 = 0) := by
  decide +kernel

theorem exists_year {d n : Nat} (h : d < daysBefore n) :
    ∃ y < n, daysBefore y ≤ d ∧ d < daysBefore (y + 1) := by
  induction n with
  | zero => exact absurd h (Nat.not_lt_zero d)
  | succ n ih =>
    by_cases earlier : d < daysBefore n
    · obtain ⟨y, below, within⟩ := ih earlier
      exact ⟨y, by omega, within⟩
    · exact ⟨n, by omega, by omega, h⟩

theorem yearOfEra_eq {d : Nat} (h : d < 146097) :
    daysBefore (commonDays d / 365) ≤ d ∧ d < daysBefore (commonDays d / 365 + 1) ∧
      commonDays d / 365 < 400 := by
  obtain ⟨y, below, start, stop⟩ := exists_year (n := 400) (d := d) h
  have ends := commonDays_ends y below
  have last : daysBefore (y + 1) ≤ 146097 := by unfold daysBefore; omega
  have lower := commonDays_mono start h
  have upper : commonDays d ≤ commonDays (daysBefore (y + 1) - 1) :=
    commonDays_mono (by omega) (by omega)
  have year : commonDays d / 365 = y := by omega
  rw [year]
  exact ⟨start, stop, below⟩

/-! ## Days of a year -/

/-- The month of a day of a year that starts in March. -/
def monthOf (dayOfYear : Nat) : Nat :=
  let monthFromMarch := (5 * dayOfYear + 2) / 153
  if monthFromMarch < 10 then monthFromMarch + 3 else monthFromMarch - 9

/-- The day of the month of a day of a year that starts in March. -/
def dayOf (dayOfYear : Nat) : Nat :=
  dayOfYear - (153 * ((5 * dayOfYear + 2) / 153) + 2) / 5 + 1

/-- The date of a day of a year of an era. -/
def inEra (era : Int) (y dayOfYear : Nat) : CivilDate :=
  let year : Int := y + era * 400
  ⟨if monthOf dayOfYear ≤ 2 then year + 1 else year, monthOf dayOfYear, dayOf dayOfYear⟩

/-- A day lies in a year of an era, and has a 366th day only if the year ends in
a leap year's February. -/
theorem ofDays_inEra (days : Int) : ∃ (era : Int) (y dayOfYear : Nat), y < 400 ∧ dayOfYear < 366 ∧
    (dayOfYear = 365 → isLeapYear (y + 1 + era * 400)) ∧
    days + 719468 = era * 146097 + (365 * y + y / 4 - y / 100 + dayOfYear : Nat) ∧
    ofDays days = inEra era y dayOfYear := by
  obtain ⟨d, hd⟩ : ∃ d : Nat, (d : Int) = (days + 719468) % 146097 :=
    ⟨((days + 719468) % 146097).toNat, by omega⟩
  have within : d < 146097 := by omega
  have dayOfEra : days + 719468 - (days + 719468) / 146097 * 146097 = d := by omega
  obtain ⟨start, stop, below⟩ := yearOfEra_eq within
  have year : ((d : Int) - d / 1460 + d / 36524 - d / 146096) / 365 =
      (commonDays d / 365 : Nat) := by
    unfold commonDays
    omega
  generalize commonDays d / 365 = y at *
  have length := daysBefore_succ y below
  have before : daysBefore y = 365 * y + y / 4 - y / 100 := by unfold daysBefore; omega
  refine ⟨(days + 719468) / 146097, y, d - daysBefore y, below, ?_, ?_, ?_, ?_⟩
  · omega
  · intro last
    simp only [isLeapYear, Bool.and_eq_true, beq_iff_eq, bne_iff_ne, Bool.or_eq_true]
    omega
  · omega
  · have rest : (d : Int) - (365 * y + y / 4 - y / 100) = (d - daysBefore y : Nat) := by omega
    generalize d - daysBefore y = dayOfYear at *
    have months : (5 * (dayOfYear : Int) + 2) / 153 = ((5 * dayOfYear + 2) / 153 : Nat) := by
      omega
    unfold ofDays inEra monthOf dayOf
    simp only [dayOfEra, year, rest, months]
    have start : (153 * ((5 * dayOfYear + 2) / 153) + 2) / 5 ≤ dayOfYear := by omega
    generalize (5 * dayOfYear + 2) / 153 = month at *
    by_cases early : month < 10
    · have early' : (month : Int) < 10 := by omega
      rw [if_pos early, if_pos early', CivilDate.mk.injEq]
      refine ⟨?_, by omega, by omega⟩
      rw [if_neg (by omega), if_neg (by omega)]
    · have early' : ¬ (month : Int) < 10 := by omega
      rw [if_neg early, if_neg early', CivilDate.mk.injEq]
      refine ⟨?_, by omega, by omega⟩
      by_cases first : month - 9 ≤ 2
      · rw [if_pos first, if_pos (by omega)]
      · rw [if_neg first, if_neg (by omega)]

/-! ## Dates -/

/-- Months and days of a year of 365 days, and the leap day at its end. -/
theorem dayOf_within : ∀ n < 366, (1 ≤ monthOf n ∧ monthOf n ≤ 12) ∧ 1 ≤ dayOf n ∧
    (dayOf n ≤ daysIn 1 (monthOf n) ∨ n = 365 ∧ monthOf n = 2 ∧ dayOf n = 29) := by
  decide +kernel

/-- A month is never shorter than in a common year. -/
theorem daysIn_le (y : Int) (month : Nat) : daysIn 1 month ≤ daysIn y month := by
  by_cases february : month = 2
  · subst february
    show (if isLeapYear 1 then 29 else 28) ≤ if isLeapYear y then 29 else 28
    cases isLeapYear y <;> decide
  · unfold daysIn
    split <;> first | exact Nat.le_refl _ | contradiction

theorem isValid_ofDays (days : Int) : (ofDays days).isValid := by
  obtain ⟨era, y, n, below, within, leap, -, eq⟩ := ofDays_inEra days
  obtain ⟨-, first, last⟩ := dayOf_within n within
  rw [eq, isValid, inEra]
  simp only [Bool.and_eq_true, decide_eq_true_eq]
  refine ⟨first, ?_⟩
  rcases last with inMonth | ⟨rfl, february, leapDay⟩
  · exact Nat.le_trans inMonth (daysIn_le _ _)
  · have leapYear : isLeapYear (y + era * 400 + 1) := by
      rw [show (y + era * 400 + 1 : Int) = y + 1 + era * 400 by omega]
      exact leap rfl
    have length : daysIn (y + era * 400 + 1) 2 = 29 := if_pos leapYear
    rw [february, leapDay, if_pos (Nat.le_refl 2)]
    exact Nat.le_of_eq length.symm

theorem ofDays_within (days : Int) : (1 ≤ (ofDays days).month ∧ (ofDays days).month ≤ 12) ∧
    1 ≤ (ofDays days).day ∧ (ofDays days).day ≤ 31 := by
  obtain ⟨era, y, n, -, within, -, -, eq⟩ := ofDays_inEra days
  obtain ⟨month, first, -⟩ := dayOf_within n within
  rw [eq]
  refine ⟨month, first, ?_⟩
  show dayOf n ≤ 31
  unfold dayOf
  omega

/-- A day is the date that it was turned into. -/
theorem toDays_ofDays (days : Int) : (ofDays days).toDays = days := by
  obtain ⟨era, y, n, below, within, -, count, eq⟩ := ofDays_inEra days
  have march : (if (inEra era y n).month ≤ 2 then (inEra era y n).year - 1
      else (inEra era y n).year) = y + era * 400 := by
    unfold inEra
    split <;> simp_all
  have month : ((monthOf n : Int) + 9) % 12 = ((5 * n + 2) / 153 : Nat) := by
    unfold monthOf
    dsimp only
    split <;> omega
  have day : (153 * (((5 * n + 2) / 153 : Nat) : Int) + 2) / 5 + dayOf n - 1 = n := by
    unfold dayOf
    omega
  rw [eq, toDays]
  simp only [march]
  rw [show ((inEra era y n).month : Int) = monthOf n from rfl, month,
    show ((inEra era y n).day : Int) = dayOf n from rfl, day]
  omega

end WalletLedger.CivilDate
