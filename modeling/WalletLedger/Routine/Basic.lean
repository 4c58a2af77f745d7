/-!
# Routines

A routine is a computation over a shared world that takes time only where it
has to wait: for its turn at the one lock of the world, and while it holds
it. `Routine.alone` runs a routine that has the world to itself; the rules
for several routines at once are those of `Timeline`.
-/

namespace WalletLedger

/-- One turn at the lock. -/
structure Turn (W : Type) where
  /-- How many milliseconds after asking the turn has to be over; none when it may take any time. -/
  limit : Option Nat
  /-- What happens to the world when the lock is obtained. -/
  enter : W → W
  /-- How many milliseconds the lock is held, seen from the world in which it was obtained. -/
  hold : W → Nat
  /-- What happens to the world when the time is over, given the world in which
  the lock was obtained. -/
  commit : W → W → W

/-- Whether a turn that is obtained at once is over in time. -/
def Turn.isQuick {W : Type} (t : Turn W) (w : W) : Bool :=
  match t.limit with
  | some limit => t.hold w ≤ limit
  | none => true

/-- A computation over a world `W` with an answer in `α`. -/
inductive Routine (W : Type) (α : Type)
  /-- The answer. -/
  | done (answer : α)
  /-- An effect that needs no turn; what follows may depend on the world before it. -/
  | now (effect : W → W) (next : W → Routine W α)
  /-- A turn at the lock: what follows when it is not over in time, and what
  follows it, given the world in which the lock was obtained. -/
  | turn (t : Turn W) (expired : Routine W α) (next : W → Routine W α)

namespace Routine

variable {W α β : Type}

/-- One routine after another. -/
def bind (r : Routine W α) (f : α → Routine W β) : Routine W β :=
  match r with
  | .done a => f a
  | .now effect next => .now effect fun w => (next w).bind f
  | .turn t expired next => .turn t (expired.bind f) fun w => (next w).bind f

instance : Monad (Routine W) where
  pure := done
  bind := bind

/-- An effect with an answer that needs no turn. -/
def ofState (α : Type) (x : StateM W α) : Routine W α :=
  .now (fun w => (x w).2) fun w => .done (x w).1

/-- The answer and the world of a routine that has the world to itself. -/
def alone (r : Routine W α) (w : W) : α × W :=
  match r with
  | .done a => (a, w)
  | .now effect next => (next w).alone (effect w)
  | .turn t expired next =>
    if t.isQuick w then (next w).alone (t.commit w (t.enter w)) else expired.alone (t.enter w)

@[simp] theorem alone_done (a : α) (w : W) : (done a).alone w = (a, w) := rfl

theorem alone_bind (r : Routine W α) (f : α → Routine W β) (w : W) :
    (r.bind f).alone w = (f (r.alone w).1).alone (r.alone w).2 := by
  induction r generalizing w with
  | done a => rfl
  | now effect next ih => exact ih w (effect w)
  | turn t expired next ihe ih =>
    simp only [bind, alone]
    split
    · exact ih w _
    · exact ihe _

end Routine

end WalletLedger
