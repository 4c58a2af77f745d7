import WalletLedger.Proofs.Timeline.Deadlines
import Mathlib.Logic.Function.Iterate

/-!
# Routines in turn

`Timeline.settle` tells where routines end that are looked at in turn. The `Round`s of a timeline
are how they get there: one routine is looked at, or everyone has been and the clock may move. A
look at everyone is a row of rounds (`succ_pass`), so the rounds come to where the routines settle,
and there they stay (`settle_reached`). Errands in turn follow a schedule (`inTurn`), since nothing
that the clock passes was left to happen (`Orderly.leads`).
-/

namespace WalletLedger.Timeline

variable {W α : Type}

/-- A moment, and who is looked at in it. -/
structure Round (W α : Type) extends Moment W α where
  next : Nat

namespace Round

/-- The first round of routines that start at given times. -/
def start (routines : List (Nat × Routine W α)) (w : W) : Round W α :=
  ⟨.start routines w, 0⟩

/-- The round that follows: the next routine is looked at. When everyone has been, it begins
again, at the next event unless the lock is being handed over. -/
def succ (r : Round W α) : Round W α :=
  match r.slots[r.next]? with
  | some slot => ⟨r.look r.next slot, r.next + 1⟩
  | none =>
    if isHandedOver r.shared r.slots then ⟨r.wait r.shared.clock, 0⟩
    else match nextEvent? r.shared r.slots with
      | some time => ⟨r.wait time, 0⟩
      | none => r

/-- Who is looked at, if anyone. -/
def looks (r : Round W α) : Option Nat :=
  if r.next < r.slots.length then some r.next else none

variable {r : Round W α}

/-- What the next round can be. -/
theorem succ_cases (r : Round W α) :
    (∃ slot, r.slots[r.next]? = some slot ∧ r.succ = ⟨r.look r.next slot, r.next + 1⟩) ∨
      r.slots.length ≤ r.next ∧
        (isHandedOver r.shared r.slots = true ∧ r.succ = ⟨r.wait r.shared.clock, 0⟩ ∨
          (∃ time, nextEvent? r.shared r.slots = some time ∧ r.succ = ⟨r.wait time, 0⟩) ∨
          r.succ = r) := by
  rcases there : r.slots[r.next]? with _ | slot
  · refine .inr ⟨List.getElem?_eq_none_iff.mp there, ?_⟩
    simp only [succ, there]
    by_cases handed : isHandedOver r.shared r.slots
    · exact .inl ⟨handed, if_pos handed⟩
    · rw [if_neg handed]
      rcases nextEvent? r.shared r.slots with _ | time
      · exact .inr (.inr rfl)
      · exact .inr (.inl ⟨time, rfl, rfl⟩)
  · exact .inl ⟨slot, rfl, by simp only [succ, there]⟩

/-! ## From rounds to runs -/

/-- One round for each slot makes a look at all of them. -/
theorem succ_pass (earlier slots : List (Slot W α)) (s : Shared W) :
    succ^[slots.length] ⟨⟨s, earlier ++ slots⟩, earlier.length⟩ =
      ⟨⟨(pass earlier.length s slots).1, earlier ++ (pass earlier.length s slots).2⟩,
        earlier.length + slots.length⟩ := by
  induction slots generalizing earlier s with
  | nil => rfl
  | cons slot slots ih =>
    have first : succ ⟨⟨s, earlier ++ slot :: slots⟩, earlier.length⟩ =
        ⟨⟨(poll earlier.length s slot).1, (earlier ++ [(poll earlier.length s slot).2]) ++ slots⟩,
          (earlier ++ [(poll earlier.length s slot).2]).length⟩ := by
      simp [succ, Moment.look]
    rw [List.length_cons, Function.iterate_succ_apply, first, ih]
    simp [pass, Nat.add_assoc, Nat.add_comm 1]

theorem length_pass (self : Nat) (s : Shared W) (slots : List (Slot W α)) :
    (pass self s slots).2.length = slots.length := by
  induction slots generalizing self s with
  | nil => rfl
  | cons slot slots ih => simp [pass, ih]

/-- The rounds come to what the passes of a run come to. -/
theorem go_reached (fuel : Nat) (s : Shared W) (slots : List (Slot W α)) :
    ∃ n next, succ^[n] ⟨⟨s, slots⟩, 0⟩ = ⟨⟨(go fuel s slots).1, (go fuel s slots).2⟩, next⟩ := by
  induction fuel generalizing s slots with
  | zero => exact ⟨0, 0, rfl⟩
  | succ fuel ih =>
    have passed := succ_pass [] slots s
    simp only [List.nil_append, List.length_nil, Nat.zero_add] at passed
    have kept := length_pass 0 s slots
    unfold go
    rcases looked : pass 0 s slots with ⟨s₁, slots₁⟩
    rw [looked] at passed kept
    simp only at passed kept ⊢
    have stopped : slots₁[slots.length]? = none :=
      List.getElem?_eq_none_iff.mpr (Nat.le_of_eq kept)
    -- a pass that is followed by another one is followed by one round between them
    have onward {t : Shared W}
        (between : succ ⟨⟨s₁, slots₁⟩, slots.length⟩ = ⟨⟨t, slots₁⟩, 0⟩) :
        ∃ n next, succ^[n] ⟨⟨s, slots⟩, 0⟩ =
          ⟨⟨(go fuel t slots₁).1, (go fuel t slots₁).2⟩, next⟩ := by
      obtain ⟨n, next, reached⟩ := ih t slots₁
      refine ⟨n + 1 + slots.length, next, ?_⟩
      rw [Function.iterate_add_apply, passed, Function.iterate_succ_apply, between, reached]
    by_cases handed : isHandedOver s₁ slots₁
    · rw [if_pos handed]
      exact onward (by simp only [succ, stopped, handed, ↓reduceIte, Moment.wait])
    · rw [if_neg handed]
      rcases next : nextEvent? s₁ slots₁ with _ | time
      · exact ⟨slots.length, slots.length, passed⟩
      · exact onward (by simp only [succ, stopped, handed, next, Moment.wait]; rfl)

/-! ## Rest -/

/-- When everybody has an answer only the looks go on. -/
theorem rest_succ (ended : Settled r.slots) : r.succ.toMoment = r.toMoment := by
  rcases r.succ_cases with ⟨slot, here, eq⟩ | ⟨-, ⟨handed, -⟩ | ⟨time, event, -⟩ | eq⟩
  · have past := ended slot (List.mem_of_getElem? here)
    cases slot with
    | finished time a =>
      rw [eq]
      show (⟨r.shared, r.slots.set r.next (.finished time a)⟩ : Moment W α) = r.toMoment
      rw [Linear.set_same here]
    | _ => cases past
  · obtain ⟨j, slot, there, due⟩ := stirs_of_handedOver handed
    have past := ended slot (List.mem_of_getElem? there)
    rcases due with due | ⟨waiting, -⟩
    · cases slot with
      | finished => exact absurd nofun due
      | _ => cases past
    · rw [past] at waiting
      cases waiting
  · have mem := List.mem_of_mem_filter (List.min?_mem event)
    obtain ⟨slot, there, event⟩ := List.mem_flatMap.mp mem
    have past := ended slot there
    cases slot with
    | finished => cases event
    | _ => cases past
  · rw [eq]

/-- The rounds come to where routines settle, and stay there. -/
theorem settle_reached {turns : Nat} {routines : List (Nat × Routine W α)} {w : W}
    (ended : Settled (settle turns routines w).2) : ∃ n, ∀ k, n ≤ k →
      (succ^[k] (start routines w)).toMoment =
        ⟨(settle turns routines w).1, (settle turns routines w).2⟩ := by
  obtain ⟨n, next, reached⟩ := go_reached (fuelFor routines.length turns) (.start w)
    (Moment.start routines w).slots
  refine ⟨n, fun k le => ?_⟩
  induction le with
  | refl => exact congrArg toMoment reached
  | step _ ih =>
    rw [Function.iterate_succ_apply', rest_succ (by rwa [ih]), ih]

/-! ## Errands in turn -/

variable {calls : List (Nat × Errand W α)} {isLate : α → Prop} {w : W}

/-- Nothing happens before what happens next. -/
theorem nextEvent_le {s : Shared W} {slots : List (Slot W α)} {slot : Slot W α} {time : Nat}
    (next : nextEvent? s slots = some time) (mem : slot ∈ slots) (ahead : slot.IsAhead s.clock) :
    ∀ event ∈ slot.events, time ≤ event := by
  intro event happens
  refine (List.min?_eq_some_iff.mp next).2 event (List.mem_filter.mpr ⟨?_, ?_⟩)
  · exact List.mem_flatMap.mpr ⟨slot, mem, happens⟩
  · exact decide_eq_true (ahead event happens)

/-- What is true of every round of errands that began at given times. -/
structure Orderly (calls : List (Nat × Errand W α)) (isLate : α → Prop) (w : W)
    (r : Round W α) : Prop where
  moment : r.toMoment.Orderly calls isLate w
  /-- Whoever has been looked at at this time has nothing left to do at it. -/
  ahead : ∀ j slot, j < r.next → r.slots[j]? = some slot → slot.IsAhead r.shared.clock

namespace Orderly

/-- A round is a moment, and the next one may follow it. -/
theorem leads (h : r.Orderly calls isLate w) : r.toMoment.Leads r.looks r.succ.toMoment := by
  rcases r.succ_cases with ⟨slot, here, eq⟩ | ⟨all, rest⟩
  · rw [eq, looks, if_pos (lt_of_getElem? here)]
    exact .look here
  have nobody : r.looks = none := if_neg (Nat.not_lt.mpr all)
  have ahead : ∀ slot ∈ r.slots, slot.IsAhead r.shared.clock := fun slot mem => by
    obtain ⟨j, there⟩ := List.mem_iff_getElem?.mp mem
    exact h.ahead j slot (Nat.lt_of_lt_of_le (lt_of_getElem? there) all) there
  have still : r.toMoment.Leads none (r.wait r.shared.clock) :=
    .wait (Nat.le_refl _) fun slot mem time event => Nat.le_of_lt (ahead slot mem time event)
  rw [nobody]
  rcases rest with ⟨-, eq⟩ | ⟨time, next, eq⟩ | eq <;> rw [eq]
  · exact still
  · refine .wait ?_ fun slot mem => nextEvent_le next mem (ahead slot mem)
    exact Nat.le_of_lt (by simpa using (List.mem_filter.mp (List.min?_mem next)).2)
  · exact still

theorem succ (h : r.Orderly calls isLate w) (staged : ∀ c ∈ calls, Staged isLate c.2) :
    r.succ.Orderly calls isLate w := by
  refine ⟨h.moment.leads staged h.leads, ?_⟩
  rcases r.succ_cases with ⟨slot, here, eq⟩ | ⟨-, ⟨-, eq⟩ | ⟨time, -, eq⟩ | eq⟩ <;> rw [eq]
  · obtain ⟨c, -, errand⟩ := h.moment.errand_at here
    have move := h.moment.move errand here
    intro j slot' before there'
    show slot'.IsAhead (poll r.next r.shared slot).1.clock
    rw [move.clock_eq]
    by_cases same : r.next = j
    · subst same
      obtain rfl := Option.some.inj ((Moment.look_self here).symm.trans there')
      exact move.ahead
    · exact h.ahead j slot' (Nat.lt_of_le_of_ne (Nat.le_of_lt_succ before) (Ne.symm same))
        ((Moment.look_other same).symm.trans there')
  · exact fun _ _ before => absurd before (Nat.not_lt_zero _)
  · exact fun _ _ before => absurd before (Nat.not_lt_zero _)
  · exact h.ahead

theorem after (staged : ∀ c ∈ calls, Staged isLate c.2) (w : W) (n : Nat) :
    (Round.succ^[n] (.start (calls.map fun c => (c.1, c.2.routine)) w)).Orderly calls isLate w := by
  induction n with
  | zero => exact ⟨.opening calls isLate w, fun _ _ before => absurd before (Nat.not_lt_zero _)⟩
  | succ n ih =>
    rw [Function.iterate_succ_apply']
    exact ih.succ staged

end Orderly

end Round

/-- The schedule of errands that are looked at in turn. -/
def inTurn {calls : List (Nat × Errand W α)} {isLate : α → Prop}
    (staged : ∀ c ∈ calls, Staged isLate c.2) (w : W) :
    Schedule (calls.map fun c => (c.1, c.2.routine)) w where
  moment n := (Round.succ^[n] (.start (calls.map fun c => (c.1, c.2.routine)) w)).toMoment
  looks n := (Round.succ^[n] (.start (calls.map fun c => (c.1, c.2.routine)) w)).looks
  opening := rfl
  leads n := by
    rw [Function.iterate_succ_apply']
    exact (Round.Orderly.after staged w n).leads

/-- Errands in turn come to where they settle, and everyone has an answer there. -/
theorem inTurn_settles {calls : List (Nat × Errand W α)} {isLate : α → Prop}
    (staged : ∀ c ∈ calls, Staged isLate c.2) (w : W) :
    let settled := settle 1 (calls.map fun c => (c.1, c.2.routine)) w
    Settled settled.2 ∧
      ∃ n, ∀ k, n ≤ k → (inTurn staged w).moment k = ⟨settled.1, settled.2⟩ :=
  have ended := (settle_linear staged w).2
  ⟨ended, Round.settle_reached ended⟩

end WalletLedger.Timeline
