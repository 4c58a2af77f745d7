/-!
# Timestamps

A point in time on the UTC scale: whole seconds since the start of 1970 and
nanoseconds within the second. Nanoseconds from 10⁹ on stand for a leap second,
which has the same whole second as the one before it. Days are turned into
dates of the proleptic Gregorian calendar and back.
-/

namespace WalletLedger

/-- A point in time. -/
structure Timestamp where
  seconds : Int
  nanos : Nat
deriving DecidableEq, Repr, Inhabited

/-- A date of the proleptic Gregorian calendar. -/
structure CivilDate where
  year : Int
  month : Nat
  day : Nat
deriving DecidableEq, Repr, Inhabited

namespace CivilDate

/-- Whether a year has a 29th of February. -/
def isLeapYear (y : Int) : Bool :=
  y % 4 == 0 && (y % 100 != 0 || y % 400 == 0)

/-- The number of days of a month; zero when there is no such month. -/
def daysIn (y : Int) (month : Nat) : Nat :=
  match month with
  | 1 | 3 | 5 | 7 | 8 | 10 | 12 => 31
  | 4 | 6 | 9 | 11 => 30
  | 2 => if isLeapYear y then 29 else 28
  | _ => 0

/-- Whether a date exists. -/
def isValid (d : CivilDate) : Bool :=
  1 ≤ d.day && d.day ≤ daysIn d.year d.month

/-- The number of days from the 1st of January 1970. Years are counted from
March, so that the leap day is the last of its year. -/
def toDays (d : CivilDate) : Int :=
  let y := if d.month ≤ 2 then d.year - 1 else d.year
  let era := y / 400
  let yearOfEra := y - era * 400
  let monthFromMarch : Int := ((d.month : Int) + 9) % 12
  let dayOfYear := (153 * monthFromMarch + 2) / 5 + d.day - 1
  era * 146097 + (yearOfEra * 365 + yearOfEra / 4 - yearOfEra / 100 + dayOfYear) - 719468

/-- The date a number of days after the 1st of January 1970. -/
def ofDays (days : Int) : CivilDate :=
  let z := days + 719468
  let era := z / 146097
  let dayOfEra := z - era * 146097
  let yearOfEra := (dayOfEra - dayOfEra / 1460 + dayOfEra / 36524 - dayOfEra / 146096) / 365
  let dayOfYear := dayOfEra - (365 * yearOfEra + yearOfEra / 4 - yearOfEra / 100)
  let monthFromMarch := (5 * dayOfYear + 2) / 153
  let day := dayOfYear - (153 * monthFromMarch + 2) / 5 + 1
  let month := if monthFromMarch < 10 then monthFromMarch + 3 else monthFromMarch - 9
  let year := yearOfEra + era * 400
  ⟨if month ≤ 2 then year + 1 else year, month.toNat, day.toNat⟩

end CivilDate

namespace Timestamp

/-- The date of a point in time. -/
def date (t : Timestamp) : CivilDate :=
  CivilDate.ofDays (t.seconds / 86400)

/-- The seconds since the start of the day. -/
def secondOfDay (t : Timestamp) : Nat :=
  (t.seconds % 86400).toNat

instance : LE Timestamp :=
  ⟨fun a b => a.seconds < b.seconds ∨ a.seconds = b.seconds ∧ a.nanos ≤ b.nanos⟩

instance (a b : Timestamp) : Decidable (a ≤ b) :=
  inferInstanceAs <|
    Decidable (a.seconds < b.seconds ∨ a.seconds = b.seconds ∧ a.nanos ≤ b.nanos)

end Timestamp

end WalletLedger
