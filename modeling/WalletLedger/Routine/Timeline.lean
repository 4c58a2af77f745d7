import WalletLedger.Routine.Basic

/-!
# Several routines at once

Routines that share a world, on a clock that counts milliseconds and moves
only when every routine waits. The lock is given out in the order in which it
was asked for. Routines are looked at in their order; one that can go on does
so until it has to wait. What can happen at an instant happens before a limit
that ends at the same instant is noticed; a routine whose limit is over leaves
the queue or the lock at once.
-/

namespace WalletLedger

/-- Where a routine stands. -/
inductive Slot (W : Type) (α : Type)
  /-- It starts at a time. -/
  | arriving (time : Nat) (r : Routine W α)
  /-- It waits for the lock, until a time at most. -/
  | queued (t : Turn W) (deadline : Option Nat) (expired : Routine W α) (next : W → Routine W α)
  /-- It holds the lock until a time; the lock was obtained in the world `entry`. -/
  | holding (t : Turn W) (ends : Nat) (deadline : Option Nat) (entry : W)
      (expired : Routine W α) (next : W → Routine W α)
  /-- It has had its answer since a time. -/
  | finished (time : Nat) (answer : α)

namespace Slot

variable {W α : Type}

/-- The times at which a routine can go on by itself. -/
def events : Slot W α → List Nat
  | .arriving time _ => [time]
  | .queued _ deadline _ _ => deadline.toList
  | .holding _ ends deadline _ _ _ => ends :: deadline.toList
  | .finished _ _ => []

/-- The answer of a routine that has one. -/
def answer? : Slot W α → Option α
  | .finished _ a => some a
  | _ => none

end Slot

/-- What routines share: the world, the clock, who holds the lock, who waits
for it, first come first, and who obtained it so far, the latest last. -/
structure Shared (W : Type) where
  world : W
  clock : Nat
  owner : Option Nat
  queue : List Nat
  served : List Nat

namespace Shared

variable {W : Type}

/-- A world in which nobody has asked for the lock yet. -/
def start (w : W) : Shared W := ⟨w, 0, none, [], []⟩

/-- The lock is obtained. -/
def serve (s : Shared W) (self : Nat) : Shared W :=
  { s with served := s.served ++ [self] }

/-- The lock passes on to the one who waits longest. -/
def release (s : Shared W) : Shared W :=
  match s.queue with
  | next :: rest => { s with owner := some next, queue := rest }
  | [] => { s with owner := none }

/-- Whether a time has come. -/
def hasPassed (s : Shared W) : Option Nat → Bool
  | some time => time ≤ s.clock
  | none => false

end Shared

namespace Timeline

variable {W α : Type}

/-- Goes on with a routine until it has to wait. -/
def advance (self : Nat) (s : Shared W) : Routine W α → Shared W × Slot W α
  | .done a => (s, .finished s.clock a)
  | .now effect next => advance self { s with world := effect s.world } (next s.world)
  | .turn t expired next =>
    let deadline := t.limit.map (s.clock + ·)
    if s.owner.isNone then
      let s := s.serve self
      let entry := s.world
      let entered := t.enter entry
      if t.hold entry = 0 then
        advance self { s with world := t.commit entry entered } (next entry)
      else if s.hasPassed deadline then advance self { s with world := entered } expired
      else ({ s with world := entered, owner := some self },
        .holding t (s.clock + t.hold entry) deadline entry expired next)
    else if s.hasPassed deadline then advance self s expired
    else ({ s with queue := s.queue ++ [self] }, .queued t deadline expired next)

/-- Looks at one routine. -/
def poll (self : Nat) (s : Shared W) : Slot W α → Shared W × Slot W α
  | .finished time a => (s, .finished time a)
  | .arriving time r => if time ≤ s.clock then advance self s r else (s, .arriving time r)
  | .queued t deadline expired next =>
    if s.owner = some self then
      let s := s.serve self
      let entry := s.world
      let entered := t.enter entry
      if t.hold entry = 0 then
        advance self { s with world := t.commit entry entered }.release (next entry)
      else if s.hasPassed deadline then advance self { s with world := entered }.release expired
      else ({ s with world := entered },
        .holding t (s.clock + t.hold entry) deadline entry expired next)
    else if s.hasPassed deadline then
      advance self { s with queue := s.queue.filter (· ≠ self) } expired
    else (s, .queued t deadline expired next)
  | .holding t ends deadline entry expired next =>
    if ends ≤ s.clock then
      advance self { s with world := t.commit entry s.world }.release (next entry)
    else if s.hasPassed deadline then advance self s.release expired
    else (s, .holding t ends deadline entry expired next)

/-- Looks at every routine once, in order. -/
def pass (self : Nat) (s : Shared W) : List (Slot W α) → Shared W × List (Slot W α)
  | [] => (s, [])
  | slot :: rest =>
    let (s, slot) := poll self s slot
    let (s, rest) := pass (self + 1) s rest
    (s, slot :: rest)

/-- Whether the lock has been passed on to a routine that has not noticed yet. -/
def isHandedOver (s : Shared W) (slots : List (Slot W α)) : Bool :=
  match s.owner with
  | some i =>
    match slots[i]? with
    | some (.queued _ _ _ _) => true
    | _ => false
  | none => false

/-- The earliest time to come. -/
def nextEvent? (s : Shared W) (slots : List (Slot W α)) : Option Nat :=
  ((slots.flatMap Slot.events).filter (s.clock < ·)).min?

/-- Runs the routines until none can go on, with at most `fuel` passes. The
clock moves when no lock is being handed over. -/
def go : Nat → Shared W → List (Slot W α) → Shared W × List (Slot W α)
  | 0, s, slots => (s, slots)
  | fuel + 1, s, slots =>
    let (s, slots) := pass 0 s slots
    if isHandedOver s slots then go fuel s slots
    else match nextEvent? s slots with
      | some time => go fuel { s with clock := time } slots
      | none => (s, slots)

/-- Passes enough for routines of up to `turns` turns each: every turn is
asked for, handed over and ended, and every routine starts once. -/
def fuelFor (routines turns : Nat) : Nat :=
  routines * (3 * turns + 2) + 2

/-- Where routines end that start at given times and take at most `turns`
turns each. -/
def settle (turns : Nat) (routines : List (Nat × Routine W α)) (w : W) :
    Shared W × List (Slot W α) :=
  go (fuelFor routines.length turns) (.start w)
    (routines.map fun (time, r) => Slot.arriving time r)

/-- The answers and the world of routines that start at given times and take
at most `turns` turns each. -/
def run (turns : Nat) (routines : List (Nat × Routine W α)) (w : W) : List (Option α) × W :=
  let (s, slots) := settle turns routines w
  (slots.map Slot.answer?, s.world)

end Timeline

end WalletLedger
