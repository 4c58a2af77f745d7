/-!
# Durations

Lengths of time in nanoseconds. The virtual clock counts milliseconds, and a
timer goes off at the first of its ticks that is not too early, so a length
lasts as many ticks as it has milliseconds, a begun one included. A length
given out in milliseconds is rounded down, and saturates at 64 bits.
-/

namespace WalletLedger

/-- A length of time. -/
structure Duration where
  nanos : Nat
deriving DecidableEq, Repr, Inhabited

namespace Duration

/-- The length of `n` milliseconds. -/
def ofMillis (n : Nat) : Duration := ⟨n * 1000000⟩

/-- The length of `n` seconds. -/
def ofSeconds (n : Nat) : Duration := ⟨n * 1000000000⟩

/-- The whole milliseconds in a length. -/
def millis (d : Duration) : Nat := d.nanos / 1000000

/-- The ticks of the virtual clock after which a length is over. -/
def ticks (d : Duration) : Nat :=
  if d.nanos % 1000000 = 0 then d.millis else d.millis + 1

/-- The whole seconds in a length. -/
def seconds (d : Duration) : Nat := d.nanos / 1000000000

/-- The whole milliseconds in a length, at most what 64 unsigned bits hold. -/
def millisCapped (d : Duration) : Nat := min d.millis (UInt64.size - 1)

end Duration

end WalletLedger
