import WalletLedger.Proofs.Timeline.Schedules

/-!
# Errands and their deadlines

An errand that began at a time has to be over when it is `due`. Until then it waits or works, and
afterwards it has an answer, in time or late (`Timed`). Looks keep this (`poll_timed`), and so does
the clock, which never passes over anything that is to happen (`Moment.Orderly.leads`). An errand
that is late was `HeldUp` until then: it waited for the lock, or its turn at the lock was not over.
-/

namespace WalletLedger

/-- By when an errand that began at a time has to be over. -/
def Errand.due {W α : Type} (e : Errand W α) (begun : Nat) : Option Nat :=
  e.turn.limit.map (begun + ·)

namespace Timeline

variable {W α : Type} {e : Errand W α} {isLate : α → Prop} {begun i : Nat} {s : Shared W}
  {slot slot' : Slot W α}

/-- Where an errand can stand that began at a time: before its answer it is not due yet, with its
answer it was over in time, and if the answer says that it was late, it was so when it was due. -/
inductive Timed (e : Errand W α) (isLate : α → Prop) (begun clock : Nat) : Slot W α → Prop
  | coming (early : clock ≤ begun) : Timed e isLate begun clock (.arriving begun e.routine)
  | waiting (pending : ∀ due ∈ e.due begun, clock ≤ due) :
    Timed e isLate begun clock (e.waiting (e.due begun))
  | working {since : Nat} {entry : W} (lasts : clock ≤ since + e.turn.hold entry)
      (pending : ∀ due ∈ e.due begun, clock ≤ due) :
    Timed e isLate begun clock (e.working (since + e.turn.hold entry) (e.due begun) entry)
  | past {time : Nat} {a : α} (inTime : ∀ due ∈ e.due begun, time ≤ due)
      (late : isLate a → e.due begun = some time) :
    Timed e isLate begun clock (.finished time a)

/-- Why an errand is not over when it is looked at: it waits for the lock, which somebody else has,
or it obtains the lock now or has obtained it, and its turn lasts longer. -/
inductive HeldUp (e : Errand W α) (i : Nat) (s : Shared W) : Slot W α → Prop
  | waits {slot : Slot W α} {j : Nat} (early : slot.phase = .coming ∨ slot.phase = .waiting)
      (taken : s.owner = some j) (other : j ≠ i) : HeldUp e i s slot
  | begins {slot : Slot W α} (isOpen : s.IsOpenTo i slot.phase) (held : 0 < e.turn.hold s.world) :
    HeldUp e i s slot
  | lasts {since : Nat} {deadline : Option Nat} {entry : W}
      (longer : s.clock < since + e.turn.hold entry) :
    HeldUp e i s (e.working (since + e.turn.hold entry) deadline entry)

/-- A deadline that has passed and was not passed over ends now. -/
theorem eq_clock_of_passed {due : Option Nat} (passed : s.hasPassed due = true)
    (pending : ∀ time ∈ due, s.clock ≤ time) : due = some s.clock := by
  rcases due with _ | time
  · cases passed
  · have le : time ≤ s.clock := by simpa [Shared.hasPassed] using passed
    rw [Nat.le_antisymm (pending time rfl) le]

/-! ## Looks -/

/-- What a look at an errand without an answer may lead to. -/
structure Kept (e : Errand W α) (isLate : α → Prop) (begun i : Nat) (s : Shared W)
    (slot slot' : Slot W α) : Prop where
  timed : Timed e isLate begun s.clock slot'
  heldUp : ∀ time a, slot' = .finished time a → isLate a → HeldUp e i s slot

/-- The answer of an errand that was not late. -/
theorem kept_answer {w : W} (timely : ∀ w, ¬ isLate (e.answer w))
    (pending : ∀ due ∈ e.due begun, s.clock ≤ due) :
    Kept e isLate begun i s slot (.finished s.clock (e.answer w)) :=
  ⟨.past pending fun late => absurd late (timely w), fun _ _ eq late => by
    cases eq
    exact absurd late (timely w)⟩

/-- The answer of an errand that is due. -/
theorem kept_late (passed : s.hasPassed (e.due begun) = true)
    (pending : ∀ due ∈ e.due begun, s.clock ≤ due) (heldUp : HeldUp e i s slot) :
    Kept e isLate begun i s slot (.finished s.clock e.late) :=
  ⟨.past pending fun _ => eq_clock_of_passed passed pending, fun _ _ _ _ => heldUp⟩

theorem kept_obtained (timely : ∀ w, ¬ isLate (e.answer w)) (isOpen : s.IsOpenTo i slot.phase)
    (pending : ∀ due ∈ e.due begun, s.clock ≤ due) :
    Kept e isLate begun i s slot (obtained e i s (e.due begun)).2 := by
  unfold obtained
  by_cases instant : e.turn.hold s.world = 0
  · rw [if_pos instant]
    exact kept_answer timely pending
  · have held : 0 < e.turn.hold s.world := Nat.pos_of_ne_zero instant
    rw [if_neg instant]
    by_cases passed : s.hasPassed (e.due begun)
    · rw [if_pos passed]
      exact kept_late passed pending (.begins isOpen held)
    · rw [if_neg passed]
      exact ⟨.working (Nat.le_add_right _ _) pending, nofun⟩

/-- Looks keep the time of an errand. -/
theorem poll_timed (timely : ∀ w, ¬ isLate (e.answer w)) {phase : Nat → Option Phase}
    (lock : Lock s phase) (there : phase i = some slot.phase)
    (unfinished : slot.phase ≠ .past) (timed : Timed e isLate begun s.clock slot) :
    Kept e isLate begun i s slot (poll i s slot).2 := by
  cases timed with
  | coming early =>
    rw [poll_coming]
    by_cases come : begun ≤ s.clock
    · obtain rfl : begun = s.clock := Nat.le_antisymm come early
      have pending : ∀ due ∈ e.due s.clock, s.clock ≤ due := fun due mem => by
        obtain ⟨limit, -, rfl⟩ := Option.map_eq_some_iff.mp mem
        exact Nat.le_add_right _ _
      rw [if_pos come]
      rcases owner : s.owner with _ | j
      · rw [advance_free owner (lock.idle owner)]
        exact kept_obtained timely (.inl ⟨rfl, owner⟩) pending
      · have other : j ≠ i := fun same => lock.not_owner there (same ▸ owner)
        have taken : advance i s e.routine =
            if s.hasPassed (e.due s.clock) then (s, .finished s.clock e.late)
            else ({ s with queue := s.queue ++ [i] }, e.waiting (e.due s.clock)) :=
          advance_taken (by simp [owner])
        rw [taken]
        by_cases passed : s.hasPassed (e.due s.clock)
        · rw [if_pos passed]
          exact kept_late passed pending (.waits (.inl rfl) owner other)
        · rw [if_neg passed]
          exact ⟨.waiting pending, nofun⟩
    · rw [if_neg come]
      exact ⟨.coming early, nofun⟩
  | waiting pending =>
    by_cases own : s.owner = some i
    · rw [poll_owner own]
      exact kept_obtained timely (.inr ⟨rfl, own⟩) pending
    · rw [poll_waiting own]
      by_cases passed : s.hasPassed (e.due begun)
      · rw [if_pos passed]
        rcases owner : s.owner with _ | j
        · have queued : i ∈ s.queue := (lock.queue i).mpr ⟨there, own⟩
          rw [lock.idle owner] at queued
          cases queued
        · exact kept_late passed pending (.waits (.inr rfl) owner fun same => own (same ▸ owner))
      · rw [if_neg passed]
        exact ⟨.waiting pending, nofun⟩
  | @working since entry lasts pending =>
    rw [poll_working]
    by_cases ended : since + e.turn.hold entry ≤ s.clock
    · rw [if_pos ended, release_clock]
      exact kept_answer timely pending
    · rw [if_neg ended]
      by_cases passed : s.hasPassed (e.due begun)
      · rw [if_pos passed, release_clock]
        exact kept_late passed pending (.lasts (Nat.not_le.mp ended))
      · rw [if_neg passed]
        exact ⟨.working lasts pending, nofun⟩
  | past => exact absurd rfl unfinished

/-- The clock may move to what happens next. -/
theorem Timed.withClock {clock clock' : Nat} (timed : Timed e isLate begun clock slot)
    (next : ∀ time ∈ slot.events, clock' ≤ time) : Timed e isLate begun clock' slot := by
  cases timed with
  | coming => exact .coming (next begun (List.mem_singleton_self _))
  | waiting => exact .waiting fun due mem => next due (Option.mem_toList.mpr mem)
  | working =>
    exact .working (next _ List.mem_cons_self) fun due mem =>
      next due (List.mem_cons_of_mem _ (Option.mem_toList.mpr mem))
  | past inTime late => exact .past inTime late

/-- What a look at an errand does to the world: nothing, or the errand is carried out, on the world
as it is, and has its answer. -/
theorem Linear.move_world {es : List (Errand W α)} {start : W} {slots : List (Slot W α)}
    {s' : Shared W} (h : Linear es isLate start s slots) (staged : Staged isLate e)
    (errand : es[i]? = some e) (there : slots[i]? = some slot) (move : Move e i s slot s' slot') :
    s'.world = s.world ∧
        (slot' = slot ∨ slot'.phase ≠ .past ∨ slot' = .finished s.clock e.late) ∨
      s'.world = e.after s.world ∧ slot' = .finished s.clock (e.answer s.world) := by
  cases move with
  | stay => exact .inl ⟨rfl, .inl rfl⟩
  | join => exact .inl ⟨rfl, .inr (.inl nofun)⟩
  | leave => exact .inl ⟨rfl, .inr (.inr rfl)⟩
  | take _ held => exact .inl ⟨staged.enter _ held, .inr (.inl nofun)⟩
  | finish => exact .inr ⟨release_world, rfl⟩
  | miss _ held => exact .inl ⟨release_world.trans (staged.enter _ held), .inr (.inr rfl)⟩
  | @commit ends deadline entry =>
    obtain ⟨rfl, entered⟩ := h.entered i e ends deadline entry errand there
    refine .inr ⟨release_world.trans ?_, rfl⟩
    rw [Errand.after, entered]
  | overrun => exact .inl ⟨release_world, .inr (.inr rfl)⟩

/-! ## Moments -/

variable {calls : List (Nat × Errand W α)} {start : W}

namespace Moment

variable {m m' : Moment W α} {who : Option Nat}

/-- What is true at every moment of errands that began at given times. -/
structure Orderly (calls : List (Nat × Errand W α)) (isLate : α → Prop) (start : W)
    (m : Moment W α) : Prop where
  linear : Linear (calls.map (·.2)) isLate start m.shared m.slots
  timed : ∀ (i : Nat) (c : Nat × Errand W α) (slot : Slot W α), calls[i]? = some c →
    m.slots[i]? = some slot → Timed c.2 isLate c.1 m.shared.clock slot

namespace Orderly

theorem errand_at (h : m.Orderly calls isLate start) (there : m.slots[i]? = some slot) :
    ∃ c, calls[i]? = some c ∧ (calls.map (·.2))[i]? = some c.2 := by
  have inside : i < calls.length := by
    simpa [h.linear.length] using lt_of_getElem? there
  exact ⟨calls[i], List.getElem?_eq_getElem inside, by simp [inside]⟩

/-- Whoever is looked at makes a move. -/
theorem move (h : m.Orderly calls isLate start) (errand : (calls.map (·.2))[i]? = some e)
    (there : m.slots[i]? = some slot) :
    Move e i m.shared slot (poll i m.shared slot).1 (poll i m.shared slot).2 :=
  poll_move h.linear.lock (phaseAt_eq there) (h.linear.fills _ _ _ errand there)

theorem look (h : m.Orderly calls isLate start) (staged : ∀ c ∈ calls, Staged isLate c.2)
    (there : m.slots[i]? = some slot) : (m.look i slot).Orderly calls isLate start := by
  obtain ⟨c, call, errand⟩ := h.errand_at there
  have move := h.move errand there
  have kept : Timed c.2 isLate c.1 m.shared.clock (poll i m.shared slot).2 := by
    by_cases past : slot.phase = .past
    · have timed := h.timed _ _ _ call there
      cases slot with
      | finished => exact timed
      | _ => cases past
    · exact (poll_timed (staged c (List.mem_of_getElem? call)).timely h.linear.lock
        (phaseAt_eq there) past (h.timed _ _ _ call there)).timed
  have staged : ∀ e ∈ calls.map (·.2), Staged isLate e := by
    simpa using fun e time mem => staged (time, e) mem
  have clock : (m.look i slot).shared.clock = m.shared.clock := move.clock_eq
  refine ⟨h.linear.move staged errand there move, fun j c' slot' call' there' => ?_⟩
  rw [clock]
  by_cases same : i = j
  · subst same
    obtain rfl := Option.some.inj ((look_self there).symm.trans there')
    obtain rfl := Option.some.inj (call.symm.trans call')
    exact kept
  · exact h.timed j c' slot' call' ((look_other same).symm.trans there')

theorem wait (h : m.Orderly calls isLate start) {clock : Nat}
    (pending : ∀ slot ∈ m.slots, ∀ time ∈ slot.events, clock ≤ time) :
    (m.wait clock).Orderly calls isLate start :=
  ⟨h.linear.withClock clock, fun i c slot call there =>
    (h.timed i c slot call there).withClock (pending slot (List.mem_of_getElem? there))⟩

theorem leads (h : m.Orderly calls isLate start) (staged : ∀ c ∈ calls, Staged isLate c.2)
    (leads : m.Leads who m') : m'.Orderly calls isLate start := by
  cases leads with
  | look there => exact h.look staged there
  | wait _ pending => exact h.wait pending

theorem opening (calls : List (Nat × Errand W α)) (isLate : α → Prop) (start : W) :
    (Moment.start (calls.map fun c => (c.1, c.2.routine)) start).Orderly calls isLate start := by
  have slots : (Moment.start (calls.map fun c => (c.1, c.2.routine)) start).slots =
      calls.map fun c => .arriving c.1 c.2.routine := by simp [Moment.start]
  refine ⟨slots ▸ Linear.coming calls isLate start, fun i c slot call there => ?_⟩
  rw [slots, List.getElem?_map, call] at there
  obtain rfl := Option.some.inj there
  exact .coming (Nat.zero_le _)

/-- Whoever has an answer neither has the lock nor waits for it. -/
theorem gone (h : m.Orderly calls isLate start) {time : Nat} {a : α}
    (there : m.slots[i]? = some (.finished time a)) :
    m.shared.owner ≠ some i ∧ i ∉ m.shared.queue := by
  have past : phaseAt m.slots i = some .past := phaseAt_eq there
  constructor
  · intro own
    rcases h.linear.lock.owner i own with waits | works
    · cases past.symm.trans waits
    · cases past.symm.trans works
  · exact h.linear.lock.not_queued fun waits => by cases past.symm.trans waits

/-- Whoever comes to an answer was looked at and was carried out, or late. -/
theorem answered (h : m.Orderly calls isLate start) {begun time : Nat} {a : α}
    (staged : Staged isLate e) (call : calls[i]? = some (begun, e))
    (there : m.slots[i]? = some slot) (unfinished : slot.phase ≠ .past)
    (leads : m.Leads who m') (answer : m'.slots[i]? = some (.finished time a)) :
    who = some i ∧ m.shared.clock = time ∧ (∀ due ∈ e.due begun, time ≤ due) ∧
      (¬ isLate a → a = e.answer m.shared.world ∧ m'.shared.world = e.after m.shared.world) ∧
      (isLate a → a = e.late ∧ m'.shared.world = m.shared.world ∧ e.due begun = some time ∧
        HeldUp e i m.shared slot) := by
  have looked : who = some i := by
    by_contra other
    obtain rfl := Option.some.inj ((there.symm.trans (leads.other other).symm).trans answer)
    exact unfinished rfl
  subst looked
  cases leads with
  | look here =>
    obtain rfl := Option.some.inj (there.symm.trans here)
    have errand : (calls.map (·.2))[i]? = some e := by simp [call]
    have kept := poll_timed staged.timely h.linear.lock (phaseAt_eq there) unfinished
      (h.timed i _ _ call there)
    have finished := Option.some.inj ((look_self there).symm.trans answer)
    have world := h.linear.move_world staged errand there (h.move errand there)
    have timed := kept.timed
    rw [finished] at world timed
    cases timed with
    | past inTime due =>
      rcases world with ⟨same, stayed | open' | late⟩ | ⟨changed, timely⟩
      · exact absurd (congrArg Slot.phase stayed.symm) unfinished
      · exact absurd rfl open'
      · cases late
        exact ⟨rfl, rfl, inTime, fun timely => absurd staged.late timely,
          fun late => ⟨rfl, same, due late, kept.heldUp _ _ finished late⟩⟩
      · cases timely
        exact ⟨rfl, rfl, inTime, fun _ => ⟨rfl, changed⟩,
          fun late => absurd late (staged.timely _)⟩

/-- A look at somebody who does not come to an answer changes nothing. -/
theorem idle (h : m.Orderly calls isLate start) {begun : Nat} (staged : Staged isLate e)
    (call : calls[i]? = some (begun, e)) (there : m.slots[i]? = some slot)
    (leads : m.Leads (some i) m') (there' : m'.slots[i]? = some slot')
    (quiet : slot.phase = .past ∨ slot'.phase ≠ .past) : m'.shared.world = m.shared.world := by
  cases leads with
  | look here =>
    obtain rfl := Option.some.inj (there.symm.trans here)
    obtain rfl := Option.some.inj ((look_self there).symm.trans there')
    have errand : (calls.map (·.2))[i]? = some e := by simp [call]
    rcases quiet with past | open'
    · cases slot with
      | finished => rfl
      | _ => cases past
    · rcases h.linear.move_world staged errand there (h.move errand there) with
        ⟨same, -⟩ | ⟨-, timely⟩
      · exact same
      · rw [timely] at open'
        exact absurd rfl open'

end Orderly

end Moment

/-! ## Conclusions -/

namespace Schedule

variable {S : Schedule (calls.map fun c => (c.1, c.2.routine)) start}

/-- How the errand of a number comes to its answer at a time: it is looked at in a moment up to
which it has none, and has this one from then on. -/
structure Concludes (S : Schedule (calls.map fun c => (c.1, c.2.routine)) start)
    (isLate : α → Prop) (i : Nat) (e : Errand W α) (begun n time : Nat) (a : α) : Prop where
  looked : S.looks n = some i
  clock : (S.moment n).shared.clock = time
  before : ∀ k ≤ n, ∃ slot, (S.moment k).slots[i]? = some slot ∧ slot.phase ≠ .past
  after : ∀ k, n < k → (S.moment k).slots[i]? = some (.finished time a)
  /-- It leaves the lock and the queue. -/
  gone : ∀ k, n < k → (S.moment k).shared.owner ≠ some i ∧ i ∉ (S.moment k).shared.queue
  inTime : ∀ due ∈ e.due begun, time ≤ due
  /-- Unless it is late, it is carried out on the world as it is. -/
  carried : ¬ isLate a → a = e.answer (S.moment n).shared.world ∧
    (S.moment (n + 1)).shared.world = e.after (S.moment n).shared.world
  /-- Apart from that, it changes nothing when it is looked at. -/
  idle : ∀ k, S.looks k = some i → k ≠ n ∨ isLate a →
    (S.moment (k + 1)).shared.world = (S.moment k).shared.world
  /-- It is late when it is due, if it is held up then. -/
  late : isLate a → a = e.late ∧ e.due begun = some time ∧
    ∃ slot, (S.moment n).slots[i]? = some slot ∧ HeldUp e i (S.moment n).shared slot

theorem orderly (S : Schedule (calls.map fun c => (c.1, c.2.routine)) start)
    (staged : ∀ c ∈ calls, Staged isLate c.2) (n : Nat) :
    (S.moment n).Orderly calls isLate start :=
  S.always (.opening calls isLate start) (fun leads h => h.leads staged leads) n

/-- Where an errand stands at a moment. -/
theorem slot_at (S : Schedule (calls.map fun c => (c.1, c.2.routine)) start) {begun : Nat}
    (staged : ∀ c ∈ calls, Staged isLate c.2) (call : calls[i]? = some (begun, e)) (n : Nat) :
    ∃ slot, (S.moment n).slots[i]? = some slot := by
  have inside : i < (S.moment n).slots.length := by
    simpa [(S.orderly staged n).linear.length] using lt_of_getElem? call
  exact ⟨_, List.getElem?_eq_getElem inside⟩

/-- Whoever has an answer came to it at a moment. -/
theorem concludes (S : Schedule (calls.map fun c => (c.1, c.2.routine)) start)
    (staged : ∀ c ∈ calls, Staged isLate c.2) {begun k time : Nat} {a : α}
    (call : calls[i]? = some (begun, e))
    (answer : (S.moment k).slots[i]? = some (.finished time a)) :
    ∃ n, n < k ∧ S.Concludes isLate i e begun n time a := by
  have mine : Staged isLate e := staged _ (List.mem_of_getElem? call)
  induction k with
  | zero =>
    rw [S.opening, Moment.start, List.map_map, List.getElem?_map, call] at answer
    cases answer
  | succ k ih =>
    obtain ⟨slot, there⟩ := S.slot_at staged call k
    by_cases past : slot.phase = .past
    · cases slot with
      | finished time' a' =>
        cases ((S.leads k).finished there).symm.trans answer
        obtain ⟨n, earlier, concludes⟩ := ih there
        exact ⟨n, Nat.lt_succ_of_lt earlier, concludes⟩
      | _ => cases past
    obtain ⟨looked, clock, inTime, carried, late⟩ :=
      (S.orderly staged k).answered mine call there past (S.leads k) answer
    have after (l : Nat) (later : k < l) :
        (S.moment l).slots[i]? = some (.finished time a) := S.finished_after later answer
    -- an answer before this moment would still be there
    have before (l : Nat) (le : l ≤ k) :
        ∃ slot, (S.moment l).slots[i]? = some slot ∧ slot.phase ≠ .past := by
      obtain ⟨slot', there'⟩ := S.slot_at staged call l
      refine ⟨slot', there', fun past' => ?_⟩
      cases slot' with
      | finished =>
        obtain rfl := Option.some.inj (there.symm.trans (S.finished_after le there'))
        exact past rfl
      | _ => cases past'
    refine ⟨k, Nat.lt_succ_self k, looked, clock, before, after,
      fun l later => (S.orderly staged l).gone (after l later), inTime, carried,
      fun l looks other => ?_, fun isLate => ?_⟩
    · have leads := looks ▸ S.leads l
      rcases Nat.lt_trichotomy l k with earlier | rfl | later
      · obtain ⟨slot₁, there₁, -⟩ := before l (Nat.le_of_lt earlier)
        obtain ⟨slot₂, there₂, open₂⟩ := before (l + 1) earlier
        exact (S.orderly staged l).idle mine call there₁ leads there₂ (.inr open₂)
      · exact (late (other.resolve_left fun apart => apart rfl)).2.1
      · exact (S.orderly staged l).idle mine call (after l later) leads
          (after (l + 1) (Nat.lt_succ_of_lt later)) (.inl rfl)
    · obtain ⟨answered, -, due, heldUp⟩ := late isLate
      exact ⟨answered, due, slot, there, heldUp⟩

end Schedule

end Timeline

end WalletLedger
