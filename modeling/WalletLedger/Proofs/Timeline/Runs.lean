import WalletLedger.Proofs.Timeline.Errands

/-!
# Errands at once

Errands that share a timeline come to what they come to one after another, in
the order in which they obtained the lock; those that are late count for
nothing. `Linear` says so of a moment. A move keeps it (`Linear.move`), so a
look at everyone does (`Linear.pass`), and so does a run (`Linear.go`), which
lasts until everybody has an answer (`settle_linear`).
-/

namespace WalletLedger.Timeline

variable {W α : Type} {es : List (Errand W α)} {isLate : α → Prop} {start : W} {e : Errand W α}
  {i : Nat} {s s' : Shared W} {slot slot' : Slot W α} {slots : List (Slot W α)}
  {log : List (Nat × α)}

/-- Errands one after another, none of them late: who they are, what they
answer and the world after them. -/
inductive Replays (es : List (Errand W α)) (start : W) : List (Nat × α) → W → Prop
  | none : Replays es start [] start
  | snoc {log : List (Nat × α)} {w : W} {i : Nat} {e : Errand W α}
      (earlier : Replays es start log w) (there : es[i]? = some e) :
    Replays es start (log ++ [(i, e.answer w)]) (e.after w)

/-- The log of those who have an answer and were not late. -/
def Logs (isLate : α → Prop) (log : List (Nat × α)) (slots : List (Slot W α)) : Prop :=
  ∀ i a, (i, a) ∈ log ↔ (∃ time, slots[i]? = some (.finished time a)) ∧ ¬ isLate a

/-- What has happened to errands so far. -/
structure Linear (es : List (Errand W α)) (isLate : α → Prop) (start : W) (s : Shared W)
    (slots : List (Slot W α)) : Prop where
  lock : Lock s (phaseAt slots)
  length : slots.length = es.length
  fills : ∀ (i : Nat) (e : Errand W α) (slot : Slot W α), es[i]? = some e →
    slots[i]? = some slot → e.Fills slot
  /-- Who holds the lock has not changed the world yet. -/
  entered : ∀ (i : Nat) (e : Errand W α) (ends : Nat) (deadline : Option Nat) (entry : W),
    es[i]? = some e →
    slots[i]? = some (e.working ends deadline entry) → s.world = entry ∧ e.turn.enter entry = entry
  log : ∃ log, Replays es start log s.world ∧ (log.map Prod.fst).Sublist s.served ∧
    Logs isLate log slots

/-- Errands that change nothing before their turn is over, and whose answers
tell whether they were late. -/
structure Staged (isLate : α → Prop) (e : Errand W α) : Prop where
  enter : ∀ w, 0 < e.turn.hold w → e.turn.enter w = w
  late : isLate e.late
  timely : ∀ w, ¬ isLate (e.answer w)

/-! ## The log -/

section Logs

theorem phaseAt_eq (there : slots[i]? = some slot) : phaseAt slots i = some slot.phase := by
  rw [phaseAt, there]
  rfl

theorem lt_of_getElem? {β : Type} {l : List β} {b : β} (there : l[i]? = some b) : i < l.length :=
  (List.getElem?_eq_some_iff.mp there).1

theorem Logs.unfinished (h : Logs isLate log slots) (there : slots[i]? = some slot)
    (unfinished : slot.phase ≠ .past) (a : α) : (i, a) ∉ log := by
  intro mem
  obtain ⟨⟨time, finished⟩, -⟩ := (h i a).mp mem
  rw [there] at finished
  cases finished
  exact unfinished rfl

theorem Logs.set_late (h : Logs isLate log slots) (there : slots[i]? = some slot)
    (unfinished : slot.phase ≠ .past) (late : ∀ time a, slot' = .finished time a → isLate a) :
    Logs isLate log (slots.set i slot') := by
  intro j a
  by_cases same : j = i
  · subst same
    rw [List.getElem?_set_self (lt_of_getElem? there)]
    refine iff_of_false (h.unfinished there unfinished a) ?_
    rintro ⟨⟨time, finished⟩, timely⟩
    exact timely (late time a (Option.some.inj finished))
  · rw [List.getElem?_set_ne (Ne.symm same)]
    exact h j a

theorem Logs.set_timely (h : Logs isLate log slots) (there : slots[i]? = some slot)
    (unfinished : slot.phase ≠ .past) (time : Nat) {a : α} (timely : ¬ isLate a) :
    Logs isLate (log ++ [(i, a)]) (slots.set i (.finished time a)) := by
  intro j c
  rw [List.mem_append, List.mem_singleton, Prod.mk.injEq]
  by_cases same : j = i
  · subst same
    rw [List.getElem?_set_self (lt_of_getElem? there)]
    have absent := h.unfinished there unfinished c
    constructor
    · rintro (mem | ⟨-, rfl⟩)
      · exact absurd mem absent
      · exact ⟨⟨time, rfl⟩, timely⟩
    · rintro ⟨⟨time', finished⟩, -⟩
      cases finished
      exact .inr ⟨rfl, rfl⟩
  · rw [List.getElem?_set_ne (Ne.symm same), ← h j c]
    simp [same]

/-- A list without an element is among what came before it. -/
theorem sublist_of_not_mem {l earlier : List Nat} (sub : l.Sublist (earlier ++ [i]))
    (absent : i ∉ l) : l.Sublist earlier := by
  obtain ⟨l₁, l₂, rfl, sub₁, sub₂⟩ := List.sublist_append_iff.mp sub
  rcases List.sublist_singleton.mp sub₂ with rfl | rfl
  · simpa using sub₁
  · exact absurd (by simp) absent

end Logs

/-! ## Moves -/

namespace Linear

theorem withClock (h : Linear es isLate start s slots) (clock : Nat) :
    Linear es isLate start { s with clock } slots :=
  ⟨h.lock.withClock clock, h.length, h.fills, h.entered, h.log⟩

/-- Whoever holds the lock obtained it last. -/
theorem sublist_served (h : Lock s (phaseAt slots))
    (works : phaseAt slots i = some .working) {l : List Nat} (sub : l.Sublist s.served)
    (absent : i ∉ l) : (l ++ [i]).Sublist s.served := by
  obtain ⟨-, earlier, served⟩ := h.worker i works
  rw [served] at sub ⊢
  exact (sublist_of_not_mem sub absent).append (List.Sublist.refl _)

theorem set_same (there : slots[i]? = some slot) : slots.set i slot = slots := by
  obtain ⟨inside, rfl⟩ := List.getElem?_eq_some_iff.mp there
  exact List.set_getElem_self inside

/-- The log after a move. -/
theorem move_log (staged : Staged isLate e) (h : Linear es isLate start s slots)
    (errand : es[i]? = some e) (there : slots[i]? = some slot) (move : Move e i s slot s' slot') :
    ∃ log, Replays es start log s'.world ∧ (log.map Prod.fst).Sublist s'.served ∧
      Logs isLate log (slots.set i slot') := by
  rcases move.left_lt with ⟨rfl, rfl, -⟩ | closer
  · rw [set_same there]
    exact h.log
  obtain ⟨log, replays, sub, logs⟩ := h.log
  have unfinished : slot.phase ≠ .past := fun ended => by simp [ended, Phase.left] at closer
  have late (time : Nat) (a : α)
      (eq : (.finished s.clock e.late : Slot W α) = .finished time a) : isLate a := by
    cases eq
    exact staged.late
  have absent : i ∉ log.map Prod.fst := by
    simpa using fun a => logs.unfinished there unfinished a
  cases move with
  | stay => exact absurd closer (Nat.lt_irrefl _)
  | join => exact ⟨log, replays, sub, logs.set_late there unfinished nofun⟩
  | leave => exact ⟨log, replays, sub, logs.set_late there unfinished late⟩
  | take _ held =>
    refine ⟨log, ?_, sub.trans (List.sublist_append_left _ _),
      logs.set_late there unfinished nofun⟩
    rwa [staged.enter _ held]
  | finish =>
    refine ⟨log ++ [(i, e.answer s.world)], ?_, ?_,
      logs.set_timely there unfinished _ (staged.timely _)⟩
    · rw [release_world]
      exact replays.snoc errand
    · rw [release_served, List.map_append]
      exact sub.append (List.Sublist.refl _)
  | miss _ held =>
    refine ⟨log, ?_, ?_, logs.set_late there unfinished late⟩
    · rwa [release_world, staged.enter _ held]
    · rw [release_served]
      exact sub.trans (List.sublist_append_left _ _)
  | @commit ends deadline entry =>
    obtain ⟨rfl, entered⟩ := h.entered i e ends deadline entry errand there
    refine ⟨log ++ [(i, e.answer s.world)], ?_, ?_,
      logs.set_timely there unfinished _ (staged.timely _)⟩
    · rw [release_world]
      have done := replays.snoc errand
      rwa [Errand.after, entered] at done
    · rw [release_served, List.map_append]
      exact sublist_served h.lock (phaseAt_eq there) sub absent
  | overrun =>
    refine ⟨log, ?_, ?_, logs.set_late there unfinished late⟩
    · rwa [release_world]
    · rwa [release_served]

theorem move (staged : ∀ e ∈ es, Staged isLate e) (h : Linear es isLate start s slots)
    (errand : es[i]? = some e) (there : slots[i]? = some slot) (move : Move e i s slot s' slot') :
    Linear es isLate start s' (slots.set i slot') := by
  have inside := lt_of_getElem? there
  have staged := staged e (List.mem_of_getElem? errand)
  refine ⟨?_, ?_, fun j e' slot₁ errand' there' => ?_,
    fun j e' ends deadline entry errand' there' => ?_, move_log staged h errand there move⟩
  · rw [phaseAt_set inside]
    exact move.lock h.lock (phaseAt_eq there)
  · rw [List.length_set, h.length]
  · by_cases same : j = i
    · subst same
      rw [List.getElem?_set_self inside] at there'
      obtain rfl := Option.some.inj there'
      obtain rfl := Option.some.inj (errand.symm.trans errand')
      exact move.fills (h.fills j e slot errand there)
    · rw [List.getElem?_set_ne (Ne.symm same)] at there'
      exact h.fills j e' slot₁ errand' there'
  · by_cases same : j = i
    · subst same
      rw [List.getElem?_set_self inside] at there'
      obtain rfl := Option.some.inj (errand.symm.trans errand')
      have begun : slot' = e.working ends deadline entry := Option.some.inj there'
      cases move with
      | stay => exact h.entered j e ends deadline entry errand (begun ▸ there)
      | take _ held =>
        cases begun
        have entered := staged.enter _ held
        exact ⟨entered, entered⟩
      | _ => cases begun
    · rw [List.getElem?_set_ne (Ne.symm same)] at there'
      have own := (h.lock.worker j (phaseAt_eq there')).1
      rw [(move.apart h.lock (phaseAt_eq there) own same).2]
      exact h.entered j e' ends deadline entry errand' there'

end Linear

/-! ## A look at everyone -/

/-- How many times routines can go on before they are over, at most. -/
def left (slots : List (Slot W α)) : Nat :=
  slots.foldr (fun slot n => slot.phase.left + n) 0

/-- Somebody goes on when looked at; the slots are those from a number on. -/
def Stirs (s : Shared W) (self : Nat) (slots : List (Slot W α)) : Prop :=
  ∃ j slot, slots[j]? = some slot ∧
    (¬ slot.IsAhead s.clock ∨ slot.phase = .waiting ∧ s.owner = some (self + j))

/-- What a look at some slots does, those before them having been looked at. -/
structure Passed (es : List (Errand W α)) (isLate : α → Prop) (start : W)
    (earlier : List (Slot W α)) (s : Shared W) (slots : List (Slot W α)) (s' : Shared W)
    (slots' : List (Slot W α)) : Prop where
  linear : Linear es isLate start s' (earlier ++ slots')
  clock : s'.clock = s.clock
  ahead : ∀ slot ∈ slots', slot.IsAhead s.clock
  left_le : left slots' ≤ left slots
  left_lt : Stirs s earlier.length slots → left slots' < left slots

theorem left_cons : left (slot :: slots) = slot.phase.left + left slots := rfl

/-- Whoever stirs after a move stirred before it. -/
theorem Move.stirs {self : Nat} (move : Move e self s slot s' slot')
    {phase : Nat → Option Phase} (lock : Lock s phase) (there : phase self = some slot.phase)
    (stirs : Stirs s self (slot :: slots)) (stays : slot.IsAhead s.clock)
    (unserved : slot.phase = .waiting → s.owner ≠ some self) : Stirs s' (self + 1) slots := by
  obtain ⟨_ | j, slot₁, there₁, due⟩ := stirs
  · obtain rfl : slot = slot₁ := Option.some.inj there₁
    rcases due with due | ⟨waiting, own⟩
    · exact absurd stays due
    · exact absurd own (unserved waiting)
  · refine ⟨j, slot₁, there₁, ?_⟩
    rw [move.clock_eq, Nat.add_right_comm]
    exact due.imp_right fun ⟨waiting, own⟩ =>
      ⟨waiting, (move.apart lock there own (by omega)).1⟩

theorem Passed.cons {earlier : List (Slot W α)} {s₁ : Shared W} {slot₁ : Slot W α}
    {slots' : List (Slot W α)} (lock : Lock s (phaseAt (earlier ++ slot :: slots)))
    (move : Move e earlier.length s slot s₁ slot₁)
    (rest : Passed es isLate start (earlier ++ [slot₁]) s₁ slots s' slots') :
    Passed es isLate start earlier s (slot :: slots) s' (slot₁ :: slots') := by
  have there : phaseAt (earlier ++ slot :: slots) earlier.length = some slot.phase :=
    phaseAt_eq (by simp)
  have le := rest.left_le
  have lt := rest.left_lt
  refine ⟨?_, rest.clock.trans move.clock_eq, ?_, ?_, fun stirs => ?_⟩
  · simpa using rest.linear
  · exact List.forall_mem_cons.mpr ⟨move.ahead, move.clock_eq ▸ rest.ahead⟩
  · rw [left_cons, left_cons]
    rcases move.left_lt with ⟨-, rfl, -⟩ | closer <;> omega
  · rw [left_cons, left_cons]
    rcases move.left_lt with ⟨-, rfl, stays, unserved⟩ | closer
    · rw [List.length_append] at lt
      have := lt (move.stirs lock there stirs stays unserved)
      omega
    · omega

theorem Linear.pass (staged : ∀ e ∈ es, Staged isLate e) {earlier : List (Slot W α)}
    (h : Linear es isLate start s (earlier ++ slots)) :
    Passed es isLate start earlier s slots (pass earlier.length s slots).1
      (pass earlier.length s slots).2 := by
  induction slots generalizing earlier s with
  | nil => exact ⟨h, rfl, nofun, Nat.le_refl _, fun ⟨_, _, there, _⟩ => by cases there⟩
  | cons slot slots ih =>
    have there : (earlier ++ slot :: slots)[earlier.length]? = some slot := by simp
    obtain ⟨e, errand⟩ : ∃ e, es[earlier.length]? = some e :=
      ⟨_, List.getElem?_eq_getElem (h.length ▸ lt_of_getElem? there)⟩
    have move := poll_move h.lock (phaseAt_eq there) (h.fills _ e slot errand there)
    have next : Linear es isLate start (poll earlier.length s slot).1
        ((earlier ++ [(poll earlier.length s slot).2]) ++ slots) := by
      simpa using h.move staged errand there move
    have rest := ih next
    rw [List.length_append] at rest
    exact rest.cons h.lock move

/-- A look at everyone. -/
theorem Linear.pass_all (staged : ∀ e ∈ es, Staged isLate e)
    (h : Linear es isLate start s slots) :
    Passed es isLate start [] s slots (Timeline.pass 0 s slots).1 (Timeline.pass 0 s slots).2 :=
  Linear.pass staged (show Linear es isLate start s ([] ++ slots) from h)

/-! ## Runs -/

/-- Everybody has an answer. -/
def Settled (slots : List (Slot W α)) : Prop :=
  ∀ slot ∈ slots, slot.phase = .past

theorem isHandedOver_eq (own : s.owner = some i) (there : slots[i]? = some slot)
    (waiting : slot.phase = .waiting) : isHandedOver s slots = true := by
  unfold isHandedOver
  rw [own]
  simp only [there]
  cases slot with
  | queued => rfl
  | _ => cases waiting

theorem stirs_of_handedOver (handed : isHandedOver s slots = true) : Stirs s 0 slots := by
  unfold isHandedOver at handed
  rcases own : s.owner with _ | i <;> simp only [own] at handed
  · cases handed
  · rcases there : slots[i]? with _ | slot <;> simp only [there] at handed
    · cases handed
    · refine ⟨i, slot, there, .inr ⟨?_, by rw [own, Nat.zero_add]⟩⟩
      cases slot with
      | queued => rfl
      | _ => cases handed

theorem stirs_of_nextEvent {time : Nat} (next : nextEvent? s slots = some time) :
    Stirs { s with clock := time } 0 slots := by
  have mem := List.mem_of_mem_filter (List.min?_mem next)
  obtain ⟨slot, hslot, event⟩ := List.mem_flatMap.mp mem
  obtain ⟨j, there⟩ := List.mem_iff_getElem?.mp hslot
  exact ⟨j, slot, there, .inl fun ahead => Nat.lt_irrefl time (ahead time event)⟩

theorem no_events (ahead : ∀ slot ∈ slots, slot.IsAhead s.clock)
    (nothing : nextEvent? s slots = none) (mem : slot ∈ slots) : slot.events = [] := by
  refine List.eq_nil_iff_forall_not_mem.mpr fun time event => ?_
  have none_later := List.min?_eq_none_iff.mp nothing
  have later : time ∈ (slots.flatMap Slot.events).filter (s.clock < ·) :=
    List.mem_filter.mpr ⟨List.mem_flatMap.mpr ⟨slot, mem, event⟩,
      decide_eq_true (ahead slot mem time event)⟩
  rw [none_later] at later
  cases later

/-- When the lock was not handed over and no time is to come, everybody has an answer. -/
theorem Linear.settled (h : Linear es isLate start s slots)
    (ahead : ∀ slot ∈ slots, slot.IsAhead s.clock) (unnoticed : ¬ isHandedOver s slots)
    (nothing : nextEvent? s slots = none) : Settled slots := by
  have still (slot : Slot W α) (mem : slot ∈ slots) : slot.events = [] :=
    no_events ahead nothing mem
  have idle (i : Nat) : phaseAt slots i ≠ some .working := by
    intro works
    obtain ⟨slot, there, phase⟩ := Option.map_eq_some_iff.mp works
    have events := still slot (List.mem_of_getElem? there)
    cases slot with
    | holding => cases events
    | _ => cases phase
  have unowned (i : Nat) : s.owner ≠ some i := by
    intro own
    rcases h.lock.owner i own with waits | works
    · obtain ⟨slot, there, waiting⟩ := Option.map_eq_some_iff.mp waits
      exact unnoticed (isHandedOver_eq own there waiting)
    · exact idle i works
  intro slot mem
  obtain ⟨i, there⟩ := List.mem_iff_getElem?.mp mem
  have events := still slot mem
  rcases phase : slot.phase with _ | _ | _ | _
  · cases slot with
    | arriving => cases events
    | _ => cases phase
  · have queued : i ∈ s.queue := (h.lock.queue i).mpr ⟨phase ▸ phaseAt_eq there, unowned i⟩
    rw [h.lock.idle (Option.eq_none_iff_forall_ne_some.mpr unowned)] at queued
    cases queued
  · exact absurd (phase ▸ phaseAt_eq there) (idle i)
  · rfl

/-- What a run comes to, when it goes on after a look at everyone. -/
theorem Linear.go_succ (staged : ∀ e ∈ es, Staged isLate e) {fuel : Nat}
    (h : Linear es isLate start s slots) (enough : left (Timeline.pass 0 s slots).2 ≤ fuel)
    (rest : ∀ s slots, Linear es isLate start s slots → Stirs s 0 slots → left slots ≤ fuel →
      Linear es isLate start (go fuel s slots).1 (go fuel s slots).2 ∧
        Settled (go fuel s slots).2) :
    Linear es isLate start (go (fuel + 1) s slots).1 (go (fuel + 1) s slots).2 ∧
      Settled (go (fuel + 1) s slots).2 := by
  have passed := Linear.pass_all staged h
  unfold go
  rcases looked : Timeline.pass 0 s slots with ⟨s₁, slots₁⟩
  simp only [looked] at passed enough
  simp only
  have linear : Linear es isLate start s₁ slots₁ := passed.linear
  have ahead : ∀ slot ∈ slots₁, slot.IsAhead s₁.clock := passed.clock ▸ passed.ahead
  by_cases handed : isHandedOver s₁ slots₁
  · rw [if_pos handed]
    exact rest _ _ linear (stirs_of_handedOver handed) enough
  · rw [if_neg handed]
    rcases next : nextEvent? s₁ slots₁ with _ | time
    · exact ⟨linear, linear.settled ahead handed next⟩
    · exact rest _ _ (linear.withClock time) (stirs_of_nextEvent next) enough

/-- Every look at everyone brings somebody closer to the end. -/
theorem Linear.go (staged : ∀ e ∈ es, Staged isLate e) (fuel : Nat) (s : Shared W)
    (slots : List (Slot W α)) (h : Linear es isLate start s slots) (stirs : Stirs s 0 slots)
    (enough : left slots ≤ fuel) :
    Linear es isLate start (go fuel s slots).1 (go fuel s slots).2 ∧
      Settled (go fuel s slots).2 := by
  have lt : left (Timeline.pass 0 s slots).2 < left slots :=
    (Linear.pass_all staged h).left_lt stirs
  induction fuel generalizing s slots with
  | zero => omega
  | succ fuel ih =>
    refine h.go_succ staged (by omega) fun s slots h stirs enough => ?_
    exact ih s slots h stirs enough ((Linear.pass_all staged h).left_lt stirs)

section Start

variable {calls : List (Nat × Errand W α)}

theorem left_coming :
    left (calls.map fun c => (.arriving c.1 c.2.routine : Slot W α)) = 3 * calls.length := by
  induction calls with
  | nil => rfl
  | cons c calls ih =>
    rw [List.map_cons, left_cons, ih, List.length_cons]
    show 3 + _ = _
    omega

theorem Linear.coming (calls : List (Nat × Errand W α)) (isLate : α → Prop) (start : W) :
    Linear (calls.map (·.2)) isLate start (.start start)
      (calls.map fun c => .arriving c.1 c.2.routine) := by
  have coming {i : Nat} {slot : Slot W α}
      (there : (calls.map fun c => (.arriving c.1 c.2.routine : Slot W α))[i]? = some slot) :
      ∃ c, calls[i]? = some c ∧ slot = .arriving c.1 c.2.routine := by
    rw [List.getElem?_map] at there
    obtain ⟨c, found, rfl⟩ := Option.map_eq_some_iff.mp there
    exact ⟨c, found, rfl⟩
  have phase {i : Nat} {p : Phase} (there : phaseAt
      (calls.map fun c => (.arriving c.1 c.2.routine : Slot W α)) i = some p) : p = .coming := by
    obtain ⟨slot, found, rfl⟩ := Option.map_eq_some_iff.mp there
    obtain ⟨c, -, rfl⟩ := coming found
    rfl
  have lock : Lock (.start start)
      (phaseAt (calls.map fun c => (.arriving c.1 c.2.routine : Slot W α))) := by
    refine ⟨fun i => ⟨nofun, fun waits => ?_⟩, List.nodup_nil, fun _ => rfl, nofun,
      fun i works => ?_, List.nodup_nil, nofun⟩
    · cases phase waits.1
    · cases phase works
  refine ⟨lock, by simp, ?_, ?_, ?_⟩
  · intro i e slot errand there
    obtain ⟨c, found, rfl⟩ := coming there
    rw [List.getElem?_map, found] at errand
    cases errand
    exact .coming c.1
  · intro i e ends deadline entry _ there
    obtain ⟨c, -, eq⟩ := coming there
    cases eq
  · refine ⟨[], .none, List.nil_sublist _, fun i a => iff_of_false nofun ?_⟩
    rintro ⟨⟨time, there⟩, -⟩
    obtain ⟨c, -, eq⟩ := coming there
    cases eq

/-- Errands that start at any times all have an answer in the end, and came to
it one after another. -/
theorem settle_linear (staged : ∀ c ∈ calls, Staged isLate c.2) (start : W) :
    Linear (calls.map (·.2)) isLate start
      (settle 1 (calls.map fun c => (c.1, c.2.routine)) start).1
      (settle 1 (calls.map fun c => (c.1, c.2.routine)) start).2 ∧
    Settled (settle 1 (calls.map fun c => (c.1, c.2.routine)) start).2 := by
  have staged : ∀ e ∈ calls.map (·.2), Staged isLate e := by
    simpa using fun e time mem => staged (time, e) mem
  have coming := Linear.coming calls isLate start
  unfold settle
  rw [List.map_map, List.length_map]
  refine coming.go_succ staged ?_ (Linear.go staged _)
  have le := (Linear.pass_all staged coming).left_le
  rw [left_coming] at le
  refine Nat.le_trans le ?_
  omega

end Start

end WalletLedger.Timeline
