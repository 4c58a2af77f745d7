import WalletLedger.Text.Blank
import WalletLedger.Text.Numeral
import WalletLedger.Timestamp.Basic

/-!
# Reading timestamps

The relaxed RFC 3339 form: a date, one of `T`, `t` and a space, a time of day
with an optional fraction, and an offset from UTC. Blanks may stand between
the items, fields may have fewer digits than their width, and a signed year
may have more. Digits of the fraction past the ninth are dropped. Second 60
is kept as a leap second. The result is brought to UTC. A step of the reader
answers what it found and the characters after it.
-/

namespace WalletLedger.Timestamp

/-- One to `width` digits at the start of the text. -/
def digits (width : Nat) (cs : List Char) : Option (Nat × List Char) :=
  let run := (cs.take width).takeWhile Text.isDigit
  if run.isEmpty then none else some (Text.digitsValue run, cs.drop run.length)

/-- One or more digits at the start of the text, however many there are. -/
def allDigits (cs : List Char) : Option (Nat × List Char) :=
  digits cs.length cs

/-- A field of the date or time: blanks, then one or two digits in a range. -/
def field (low high : Nat) (cs : List Char) : Option (Nat × List Char) := do
  let (n, rest) ← digits 2 (Text.trimStart cs)
  if low ≤ n ∧ n ≤ high then some (n, rest) else none

/-- A year: up to four digits, or a sign and any number of digits. -/
def year (cs : List Char) : Option (Int × List Char) :=
  match Text.trimStart cs with
  | '-' :: rest => (allDigits rest).map fun (n, r) => (-(n : Int), r)
  | '+' :: rest => (allDigits rest).map fun (n, r) => ((n : Int), r)
  | rest => (digits 4 rest).map fun (n, r) => ((n : Int), r)

/-- A separator, with blanks allowed before it. -/
def separator (c : Char) (cs : List Char) : Option (List Char) :=
  match Text.trimStart cs with
  | d :: rest => if d = c then some rest else none
  | [] => none

/-- The nanoseconds of an optional fraction. -/
def fraction (cs : List Char) : Option (Nat × List Char) :=
  match cs with
  | '.' :: rest => do
    let (n, after) ← digits 9 rest
    let used := rest.length - after.length
    some (n * Nat.pow 10 (9 - used), after.dropWhile Text.isDigit)
  | _ => some (0, cs)

/-- Two digits at the start of the text. -/
def twoDigits (cs : List Char) : Option (Nat × List Char) :=
  match cs with
  | a :: b :: rest =>
    if Text.isDigit a && Text.isDigit b then some (Text.digitsValue [a, b], rest) else none
  | _ => none

/-- An offset from UTC in seconds: `Z`, `UTC`, or a sign, two digits of hours
and two digits of minutes, with colons and blanks between them passed over. -/
def offset (cs : List Char) : Option (Int × List Char) :=
  match cs with
  | 'Z' :: rest | 'z' :: rest => some (0, rest)
  | c :: rest =>
    if (cs.take 3).map Char.toUpper = ['U', 'T', 'C'] then some (0, cs.drop 3)
    else do
      let negative ←
        if c = '+' then some false
        else if c = '-' ∨ c = '\u2212' then some true
        else none
      let (hours, rest) ← twoDigits rest
      let (minutes, rest) ← twoDigits (rest.dropWhile fun c => c == ':' || Text.isBlank c)
      if minutes < 60 then
        let seconds : Int := hours * 3600 + minutes * 60
        some (if negative then -seconds else seconds, rest)
      else none
  | [] => none

/-- The years in which timestamps lie. -/
def yearInRange (y : Int) : Bool :=
  -262143 ≤ y && y ≤ 262142

/-- The point in time that a text names. -/
def read? (s : String) : Option Timestamp := do
  let (year, cs) ← year s.toList
  let cs ← separator '-' cs
  let (month, cs) ← field 1 12 cs
  let cs ← separator '-' cs
  let (day, cs) ← field 1 31 cs
  let cs ← match cs with
    | c :: rest => if c = 'T' ∨ c = 't' ∨ c = ' ' then some rest else none
    | [] => none
  let (hour, cs) ← field 0 23 cs
  let cs ← separator ':' cs
  let (minute, cs) ← field 0 59 cs
  let cs ← separator ':' cs
  let (second, cs) ← field 0 60 cs
  let (nanos, cs) ← fraction cs
  let (offset, cs) ← offset (Text.trimStart cs)
  let date : CivilDate := ⟨year, month, day⟩
  if Text.trimStart cs = [] ∧ date.isValid ∧ yearInRange year ∧ offset.natAbs < 86400 then
    let leap := if second = 60 then 1 else 0
    let wallClock := date.toDays * 86400 + hour * 3600 + minute * 60 + (second - leap : Nat)
    let instant : Timestamp := ⟨wallClock - offset, nanos + leap * 1000000000⟩
    if yearInRange instant.date.year then some instant else none
  else none

end WalletLedger.Timestamp
