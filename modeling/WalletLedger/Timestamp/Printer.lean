import WalletLedger.Text.Numeral
import WalletLedger.Timestamp.Basic

/-!
# Writing timestamps

The RFC 3339 text of a timestamp in UTC: date, `T`, time of day, fraction and
`Z`. The fraction has no digits, or the least of three, six and nine that
lose nothing. A year outside 0 to 9999 is written with its sign.
-/

namespace WalletLedger.Timestamp

/-- The digits of a year: four of them, with a sign when the year needs one. -/
def yearText (y : Int) : List Char :=
  if 0 ≤ y ∧ y ≤ 9999 then Text.padded 4 y.toNat
  else (if y < 0 then '-' else '+') :: Text.padded 4 y.natAbs

/-- The fraction of a second, as few groups of three digits as hold it. -/
def fractionText (nanos : Nat) : List Char :=
  if nanos = 0 then []
  else if nanos % 1000000 = 0 then '.' :: Text.padded 3 (nanos / 1000000)
  else if nanos % 1000 = 0 then '.' :: Text.padded 6 (nanos / 1000)
  else '.' :: Text.padded 9 nanos

/-- The text of a timestamp. -/
def text (t : Timestamp) : String :=
  let d := t.date
  let s := t.secondOfDay
  let leap := t.nanos / 1000000000
  String.ofList (yearText d.year ++ '-' :: Text.padded 2 d.month ++ '-' :: Text.padded 2 d.day ++
    'T' :: Text.padded 2 (s / 3600) ++ ':' :: Text.padded 2 (s / 60 % 60) ++
    ':' :: Text.padded 2 (s % 60 + leap) ++ fractionText (t.nanos % 1000000000) ++ ['Z'])

end WalletLedger.Timestamp
