import WalletLedger.Proofs.Timeline.Runs

/-!
# Schedules

`Timeline.settle` looks at routines in turn. A `Schedule` is any other course that they may take
together: at each moment somebody is looked at, whoever it is, or the clock moves, which may show
any time up to the first at which something is to happen by itself. Whoever has an answer keeps it
(`Schedule.finished_after`).
-/

namespace WalletLedger.Timeline

variable {W α : Type}

/-- What routines share, and where each of them stands. -/
structure Moment (W α : Type) where
  shared : Shared W
  slots : List (Slot W α)

namespace Moment

/-- The first moment of routines that start at given times. -/
def start (routines : List (Nat × Routine W α)) (w : W) : Moment W α :=
  ⟨.start w, routines.map fun (time, r) => .arriving time r⟩

/-- A routine is looked at in its slot. -/
def look (m : Moment W α) (i : Nat) (slot : Slot W α) : Moment W α :=
  ⟨(poll i m.shared slot).1, m.slots.set i (poll i m.shared slot).2⟩

/-- The clock moves. -/
def wait (m : Moment W α) (clock : Nat) : Moment W α :=
  ⟨{ m.shared with clock }, m.slots⟩

/-- What may follow a moment, with who is looked at in it. -/
inductive Leads (m : Moment W α) : Option Nat → Moment W α → Prop
  | look {i : Nat} {slot : Slot W α} (there : m.slots[i]? = some slot) :
    Leads m (some i) (m.look i slot)
  | wait {clock : Nat} (onward : m.shared.clock ≤ clock)
      (pending : ∀ slot ∈ m.slots, ∀ time ∈ slot.events, clock ≤ time) :
    Leads m none (m.wait clock)

variable {m m' : Moment W α} {i j : Nat} {slot : Slot W α} {who : Option Nat}

theorem look_self (there : m.slots[i]? = some slot) :
    (m.look i slot).slots[i]? = some (poll i m.shared slot).2 :=
  List.getElem?_set_self (lt_of_getElem? there)

theorem look_other (other : i ≠ j) : (m.look i slot).slots[j]? = m.slots[j]? :=
  List.getElem?_set_ne other

namespace Leads

/-- Only who is looked at goes on. -/
theorem other (leads : m.Leads who m') (other : who ≠ some i) : m'.slots[i]? = m.slots[i]? := by
  cases leads with
  | look there => exact look_other fun same => other (congrArg some same)
  | wait => rfl

theorem finished {time : Nat} {a : α} (leads : m.Leads who m')
    (there : m.slots[i]? = some (.finished time a)) :
    m'.slots[i]? = some (.finished time a) := by
  by_cases same : who = some i
  · subst same
    cases leads with
    | look here =>
      obtain rfl := Option.some.inj (here.symm.trans there)
      exact look_self there
  · exact (leads.other same).trans there

end Leads

end Moment

/-- A course that routines take together. -/
structure Schedule (routines : List (Nat × Routine W α)) (w : W) where
  moment : Nat → Moment W α
  /-- Who is looked at, if it is not the clock that moves. -/
  looks : Nat → Option Nat
  opening : moment 0 = .start routines w
  leads : ∀ n, (moment n).Leads (looks n) (moment (n + 1))

namespace Schedule

variable {routines : List (Nat × Routine W α)} {w : W}

/-- Whoever has an answer keeps it. -/
theorem finished_after (S : Schedule routines w) {i time n k : Nat} {a : α} (le : n ≤ k)
    (there : (S.moment n).slots[i]? = some (.finished time a)) :
    (S.moment k).slots[i]? = some (.finished time a) := by
  induction le with
  | refl => exact there
  | @step k _ ih => exact (S.leads k).finished ih

/-- What holds at first and is kept by whatever may follow holds at every moment. -/
theorem always (S : Schedule routines w) {P : Moment W α → Prop} (opening : P (.start routines w))
    (kept : ∀ {m who m'}, Moment.Leads m who m' → P m → P m') (n : Nat) : P (S.moment n) := by
  induction n with
  | zero => exact S.opening ▸ opening
  | succ n ih => exact kept (S.leads n) ih

end Schedule

end WalletLedger.Timeline
