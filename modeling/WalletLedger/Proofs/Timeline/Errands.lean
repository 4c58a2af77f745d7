import WalletLedger.Proofs.Timeline.Lock

/-!
# Routines of one turn

An errand is a routine that takes one turn at the lock and answers. Looking at
one makes one of a few moves (`Move`, `poll_move`): nothing happens yet, it
joins the queue or leaves it, it obtains the lock, or its turn is over, in time
or not. Every move but staying brings it closer to its end (`Move.left_lt`).
-/

namespace WalletLedger

/-- A routine of one turn. -/
structure Errand (W α : Type) where
  turn : Turn W
  /-- The answer when the turn was not over in time. -/
  late : α
  /-- The answer in the world in which the lock was obtained. -/
  answer : W → α

namespace Errand

variable {W α : Type}

/-- The errand as a routine. -/
def routine (e : Errand W α) : Routine W α :=
  .turn e.turn (.done e.late) fun w => .done (e.answer w)

/-- The world after an errand that has the world to itself and is not late. -/
def after (e : Errand W α) (w : W) : W :=
  e.turn.commit w (e.turn.enter w)

/-- The slot of an errand that waits for the lock. -/
def waiting (e : Errand W α) (deadline : Option Nat) : Slot W α :=
  .queued e.turn deadline (.done e.late) fun w => .done (e.answer w)

/-- The slot of an errand that holds the lock. -/
def working (e : Errand W α) (ends : Nat) (deadline : Option Nat) (entry : W) : Slot W α :=
  .holding e.turn ends deadline entry (.done e.late) fun w => .done (e.answer w)

/-- The slots in which an errand can be. -/
inductive Fills (e : Errand W α) : Slot W α → Prop
  | coming (time : Nat) : Fills e (.arriving time e.routine)
  | waiting (deadline : Option Nat) : Fills e (e.waiting deadline)
  | working (ends : Nat) (deadline : Option Nat) (entry : W) :
    Fills e (e.working ends deadline entry)
  | past (time : Nat) (answer : α) : Fills e (.finished time answer)

end Errand

/-- What is still to happen to a routine by itself lies ahead. -/
def Slot.IsAhead {W α : Type} (clock : Nat) (slot : Slot W α) : Prop :=
  ∀ time ∈ slot.events, clock < time

namespace Timeline

variable {W α : Type} {e : Errand W α} {i : Nat} {s s' : Shared W} {slot slot' : Slot W α}

/-- What happens when an errand is looked at. -/
inductive Move (e : Errand W α) (i : Nat) (s : Shared W) : Slot W α → Shared W → Slot W α → Prop
  | stay {slot : Slot W α} (ahead : Slot.IsAhead s.clock slot)
      (unserved : slot.phase = .waiting → s.owner ≠ some i) : Move e i s slot s slot
  | join {time : Nat} {deadline : Option Nat} (taken : s.owner.isSome)
      (ahead : Slot.IsAhead s.clock (e.waiting deadline)) :
    Move e i s (.arriving time e.routine) { s with queue := s.queue ++ [i] } (e.waiting deadline)
  | leave {slot : Slot W α} (early : slot.phase = .coming ∨ slot.phase = .waiting)
      (apart : s.owner ≠ some i) :
    Move e i s slot { s with queue := s.queue.filter (· ≠ i) } (.finished s.clock e.late)
  | take {slot : Slot W α} {ends : Nat} {deadline : Option Nat} (isOpen : s.IsOpenTo i slot.phase)
      (held : 0 < e.turn.hold s.world)
      (ahead : Slot.IsAhead s.clock (e.working ends deadline s.world)) :
    Move e i s slot { s.take i with world := e.turn.enter s.world }
      (e.working ends deadline s.world)
  | finish {slot : Slot W α} (isOpen : s.IsOpenTo i slot.phase) :
    Move e i s slot { s.take i with world := e.after s.world }.release
      (.finished s.clock (e.answer s.world))
  | miss {slot : Slot W α} (isOpen : s.IsOpenTo i slot.phase) (held : 0 < e.turn.hold s.world) :
    Move e i s slot { s.take i with world := e.turn.enter s.world }.release
      (.finished s.clock e.late)
  | commit {ends : Nat} {deadline : Option Nat} {entry : W} :
    Move e i s (e.working ends deadline entry)
      { s with world := e.turn.commit entry s.world }.release (.finished s.clock (e.answer entry))
  | overrun {ends : Nat} {deadline : Option Nat} {entry : W} :
    Move e i s (e.working ends deadline entry) s.release (.finished s.clock e.late)

theorem ahead_deadline {deadline : Option Nat} (pending : s.hasPassed deadline = false) :
    ∀ time ∈ deadline.toList, s.clock < time := by
  rcases deadline with _ | time
  · simp
  · simpa [Shared.hasPassed] using pending

/-- The lock is obtained: the turn is over at once, late at once, or begun. -/
def obtained (e : Errand W α) (i : Nat) (s : Shared W) (deadline : Option Nat) :
    Shared W × Slot W α :=
  if e.turn.hold s.world = 0 then
    ({ s.take i with world := e.after s.world }.release, .finished s.clock (e.answer s.world))
  else if s.hasPassed deadline then
    ({ s.take i with world := e.turn.enter s.world }.release, .finished s.clock e.late)
  else
    ({ s.take i with world := e.turn.enter s.world },
      e.working (s.clock + e.turn.hold s.world) deadline s.world)

theorem obtained_move (isOpen : s.IsOpenTo i slot.phase) (deadline : Option Nat) :
    Move e i s slot (obtained e i s deadline).1 (obtained e i s deadline).2 := by
  unfold obtained
  by_cases instant : e.turn.hold s.world = 0
  · rw [if_pos instant]
    exact .finish isOpen
  · have held : 0 < e.turn.hold s.world := Nat.pos_of_ne_zero instant
    rw [if_neg instant]
    by_cases passed : s.hasPassed deadline
    · rw [if_pos passed]
      exact .miss isOpen held
    · rw [if_neg passed]
      have ends : s.clock < s.clock + e.turn.hold s.world := Nat.lt_add_of_pos_right held
      exact .take isOpen held
        (List.forall_mem_cons.mpr ⟨ends, ahead_deadline (by simpa using passed)⟩)

/-- Nobody holds the lock and nobody waits, so it is free again afterwards. -/
theorem advance_free (free : s.owner = none) (empty : s.queue = []) :
    advance i s e.routine = obtained e i s (e.turn.limit.map (s.clock + ·)) := by
  obtain ⟨world, clock, owner, queue, served⟩ := s
  obtain rfl : owner = none := free
  obtain rfl : queue = [] := empty
  rfl

theorem advance_taken (taken : s.owner.isSome) : advance i s e.routine =
    if s.hasPassed (e.turn.limit.map (s.clock + ·)) then (s, .finished s.clock e.late)
    else ({ s with queue := s.queue ++ [i] }, e.waiting (e.turn.limit.map (s.clock + ·))) := by
  obtain ⟨world, clock, _ | owner, queue, served⟩ := s
  · cases taken
  · rfl

theorem poll_coming {time : Nat} : poll i s (.arriving time e.routine) =
    if time ≤ s.clock then advance i s e.routine else (s, .arriving time e.routine) := rfl

theorem release_clock : s.release.clock = s.clock := by
  unfold Shared.release
  split <;> rfl

theorem release_world : s.release.world = s.world := by
  unfold Shared.release
  split <;> rfl

theorem release_served : s.release.served = s.served := by
  unfold Shared.release
  split <;> rfl

theorem poll_owner {deadline : Option Nat} (own : s.owner = some i) :
    poll i s (e.waiting deadline) = obtained e i s deadline := by
  obtain ⟨world, clock, owner, queue, served⟩ := s
  obtain rfl : owner = some i := own
  simp only [Errand.waiting, poll, ↓reduceIte, advance, release_clock]
  rfl

theorem poll_waiting {deadline : Option Nat} (apart : s.owner ≠ some i) :
    poll i s (e.waiting deadline) =
      if s.hasPassed deadline then
        ({ s with queue := s.queue.filter (· ≠ i) }, .finished s.clock e.late)
      else (s, e.waiting deadline) :=
  if_neg apart

theorem poll_working {ends : Nat} {deadline : Option Nat} {entry : W} :
    poll i s (e.working ends deadline entry) =
      if ends ≤ s.clock then
        ({ s with world := e.turn.commit entry s.world }.release,
          .finished { s with world := e.turn.commit entry s.world }.release.clock (e.answer entry))
      else if s.hasPassed deadline then (s.release, .finished s.release.clock e.late)
      else (s, e.working ends deadline entry) := rfl

/-- Whoever is looked at makes a move. -/
theorem poll_move {phase : Nat → Option Phase} (lock : Lock s phase)
    (there : phase i = some slot.phase) (fills : e.Fills slot) :
    Move e i s slot (poll i s slot).1 (poll i s slot).2 := by
  cases fills with
  | coming time =>
    have absent : i ∉ s.queue := lock.not_queued (by simp [there, Slot.phase])
    have apart : s.owner ≠ some i := lock.not_owner there
    rw [poll_coming]
    by_cases come : time ≤ s.clock
    · rw [if_pos come]
      rcases owner : s.owner with _ | holder
      · rw [advance_free owner (lock.idle owner)]
        exact obtained_move (.inl ⟨rfl, owner⟩) _
      · have taken : s.owner.isSome := by simp [owner]
        rw [advance_taken taken]
        by_cases passed : s.hasPassed (e.turn.limit.map (s.clock + ·))
        · rw [if_pos passed]
          have unqueued : s.queue.filter (· ≠ i) = s.queue :=
            List.filter_eq_self.mpr fun j hj => decide_eq_true fun eq => absent (eq ▸ hj)
          have left : Move e i s (.arriving time e.routine) _ _ := .leave (.inl rfl) apart
          rwa [unqueued] at left
        · rw [if_neg passed]
          exact .join taken (ahead_deadline (by simpa using passed))
    · rw [if_neg come]
      exact .stay (by simpa [Slot.IsAhead, Slot.events] using come) fun waits => by cases waits
  | waiting deadline =>
    by_cases own : s.owner = some i
    · rw [poll_owner own]
      exact obtained_move (.inr ⟨rfl, own⟩) deadline
    · rw [poll_waiting own]
      by_cases passed : s.hasPassed deadline
      · rw [if_pos passed]
        exact .leave (.inr rfl) own
      · rw [if_neg passed]
        exact .stay (ahead_deadline (by simpa using passed)) fun _ => own
  | working ends deadline entry =>
    rw [poll_working]
    by_cases ended : ends ≤ s.clock
    · rw [if_pos ended, release_clock]
      exact .commit
    · rw [if_neg ended]
      by_cases passed : s.hasPassed deadline
      · rw [if_pos passed, release_clock]
        exact .overrun
      · rw [if_neg passed]
        have pending := ahead_deadline (by simpa using passed)
        exact .stay (List.forall_mem_cons.mpr ⟨Nat.not_le.mp ended, pending⟩) fun waits => by
          cases waits
  | past time answer =>
    exact .stay (by simp [Slot.IsAhead, Slot.events]) fun waits => by cases waits

/-! ## What moves do -/

theorem Move.clock_eq (move : Move e i s slot s' slot') : s'.clock = s.clock := by
  cases move <;> simp [release_clock, Shared.take, Shared.serve]

theorem Move.fills (move : Move e i s slot s' slot') (fills : e.Fills slot) : e.Fills slot' := by
  cases move with
  | stay => exact fills
  | join => exact .waiting _
  | take => exact .working _ _ _
  | _ => exact .past _ _

/-- After a move nothing that has come is left to happen by itself. -/
theorem Move.ahead (move : Move e i s slot s' slot') : slot'.IsAhead s.clock := by
  cases move with
  | stay ahead => exact ahead
  | join _ ahead => exact ahead
  | take _ _ ahead => exact ahead
  | _ => exact nofun

/-- Whoever does not stay comes closer to the end. -/
theorem Move.left_lt (move : Move e i s slot s' slot') :
    s' = s ∧ slot' = slot ∧ slot.IsAhead s.clock ∧ (slot.phase = .waiting → s.owner ≠ some i) ∨
      slot'.phase.left < slot.phase.left := by
  have early {p : Phase} (isOpen : s.IsOpenTo i p) : 1 < p.left := by
    rcases isOpen with ⟨rfl, -⟩ | ⟨rfl, -⟩ <;> decide
  cases move with
  | stay ahead unserved => exact .inl ⟨rfl, rfl, ahead, unserved⟩
  | join => exact .inr (show 2 < 3 by decide)
  | leave phase =>
    refine .inr ?_
    rcases phase with e | e <;> rw [e]
    · exact show 0 < 3 by decide
    · exact show 0 < 2 by decide
  | take isOpen => exact .inr (early isOpen)
  | finish isOpen => exact .inr (Nat.lt_of_succ_lt (early isOpen))
  | miss isOpen => exact .inr (Nat.lt_of_succ_lt (early isOpen))
  | commit => exact .inr Nat.one_pos
  | overrun => exact .inr Nat.one_pos

/-- While another holds the lock, a move changes neither the owner nor the world. -/
theorem Move.apart {phase : Nat → Option Phase} {j : Nat} (move : Move e i s slot s' slot')
    (lock : Lock s phase) (there : phase i = some slot.phase) (own : s.owner = some j)
    (other : j ≠ i) : s'.owner = some j ∧ s'.world = s.world := by
  have closed {p : Phase} (isOpen : s.IsOpenTo i p) : False := by
    rcases isOpen with ⟨-, free⟩ | ⟨-, mine⟩
    · simp [own] at free
    · exact other (by simpa [own] using mine)
  have idle (works : phase i = some .working) : False := by
    have mine := (lock.worker i works).1
    exact other (by simpa [own] using mine)
  cases move with
  | stay => exact ⟨own, rfl⟩
  | join => exact ⟨own, rfl⟩
  | leave => exact ⟨own, rfl⟩
  | take isOpen => exact (closed isOpen).elim
  | finish isOpen => exact (closed isOpen).elim
  | miss isOpen => exact (closed isOpen).elim
  | commit => exact (idle there).elim
  | overrun => exact (idle there).elim

theorem Move.lock {phase : Nat → Option Phase} (move : Move e i s slot s' slot')
    (lock : Lock s phase) (there : phase i = some slot.phase) :
    Lock s' (Function.update phase i (some slot'.phase)) := by
  have ended {world : W} {p : Phase} (begun : phase i = some p) (isOpen : s.IsOpenTo i p) :
      Lock { s.take i with world }.release (Function.update phase i (some .past)) := by
    have released := ((lock.take begun isOpen).withWorld world).release
      (Function.update_self i (some .working) phase)
    rwa [Function.update_idem] at released
  cases move with
  | stay =>
    rw [← there, Function.update_eq_self]
    exact lock
  | join taken => exact lock.join there taken
  | leave early apart => exact lock.leave (by simpa [there] using early) apart
  | take isOpen => exact (lock.take there isOpen).withWorld _
  | finish isOpen => exact ended there isOpen
  | miss isOpen => exact ended there isOpen
  | commit => exact (lock.withWorld _).release there
  | overrun => exact lock.release there

end Timeline

end WalletLedger
