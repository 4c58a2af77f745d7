import WalletLedger.Proofs.Coherence
import WalletLedger.Proofs.Database.Cutoffs
import WalletLedger.Proofs.Services.Fulfilment

/-!
# Both stores are regular

While no fault is armed, a memory store is regular at every pace: a movement
that is worth carrying out is late when the latency goes beyond the deadline
(`Memory.store_regular`). So is a database without guards whose pool is free,
on every course on which commits are taken: a cutoff makes a movement late or
changes nothing (`Database.storeOn_regular`), and a deadline of no length makes
every movement late (`Database.store_regular`). Requests lead such a store to
states in which still nothing but the books decides (`Memory.run_solvent`,
`Database.run_solvent`).
-/

namespace WalletLedger

open Memory

/-! ## In memory -/

namespace Memory

variable {w : World Memory}

/-- By how much the lock is held too long for a movement that would be answered. -/
def Pace.lateness (pace : Pace) (answered : Bool) : Option Duration :=
  if answered then pace.deadline.filter fun limit => limit.ticks < pace.latency.ticks else none

theorem Pace.IsQuick.lateness {pace : Pace} (quick : pace.IsQuick) (answered : Bool) :
    pace.lateness answered = none := by
  unfold Pace.lateness
  rcases limited : pace.deadline with _ | limit
  · cases answered <;> rfl
  · have inTime : ¬ limit.ticks < pace.latency.ticks := Nat.not_lt.mpr (quick limit limited)
    cases answered <;> simp [Option.filter, inTime]

theorem Pace.lateness_of_slow {pace : Pace} {limit : Duration}
    (limited : pace.deadline = some limit) (slow : limit.ticks < pace.latency.ticks) :
    pace.lateness true = some limit := by
  simp [lateness, limited, Option.filter, slow]

/-- A write that is not quick fails as it would, or is late. -/
theorem write_slow {α : Type} {pace : Pace} {work : Work α} (spares : work.Spares)
    (unarmed : w.store.fault = none) {limit : Duration} (limited : pace.deadline = some limit)
    (slow : limit.ticks < pace.latency.ticks) :
    Routine.alone (write pace work) w = conclude w (match (work w.store.books none).1 with
      | .ok _ => .error (.refused (.ofDeadline limit))
      | .error e => .error e) := by
  have attempt : work.attempt w.store = ((work w.store.books none).1, w.store.fault) := by
    rw [Work.attempt, unarmed]
    exact spares.unarmed
  have notInTime : ¬ pace.latency.ticks ≤ limit.ticks := Nat.not_le.mpr slow
  unfold write
  rcases outcome : (work w.store.books none).1 with e | ⟨a, books⟩ <;> rw [outcome] at attempt <;>
    simp [Routine.alone, Turn.isQuick, attempt, conclude, Except.map, limited, notInTime]

/-- Without a fault the books decide, and the pace whether a movement is late. -/
theorem perform_paced (pace : Pace) (limit : Option Duration) (m : Movement)
    (unarmed : w.store.fault = none) : (store pace).perform limit m.call w = conclude w
      (w.store.books.comesTo manner
        (pace.lateness (w.store.books.respond manner m.call).isOk) m.call) := by
  by_cases quick : pace.IsQuick
  · rw [quick.lateness]
    exact perform_alone limit m.call quick unarmed
  · simp only [Pace.IsQuick, not_forall, Nat.not_le] at quick
    obtain ⟨deadline, limited, slow⟩ := quick
    have writes : (store pace).perform limit m.call =
        (write pace (Work.unit m.call)).alone := by
      rw [perform_eq_alone, perform_write pace limit m.call_writes]
      cases m <;> rfl
    rw [writes, write_slow (Work.unit_spares m.call) unarmed limited slow, Work.unit_respond]
    rcases outcome : w.store.books.respond manner m.call with e | _
    · exact congrArg (conclude w) outcome.symm
    · rw [show (Except.ok _ : Except Failure (Reply × Books)).isOk = true from rfl,
        Pace.lateness_of_slow limited slow]
      rfl

theorem store_regular (pace : Pace) :
    Regular manner (fun (m : Memory) b => m = ⟨b, none⟩)
      (fun _ answered late => late = pace.lateness answered) (store pace) where
  faithful limit call w b held wf := by
    have ending := perform_ending pace limit call w
    generalize (store pace).perform limit call w = r at ending ⊢
    obtain ⟨r, w'⟩ := r
    cases ending with
    | late => exact ⟨held, .inl rfl⟩
    | faulted armed => rw [held] at armed; cases armed
    | refused result => rw [held] at result; exact ⟨held, .inr result⟩
    | answered result => rw [held] at result; exact ⟨_, result, by simp [held]⟩
  aside := (store_truthful pace).aside
  read limit call w b held := (store_truthful pace).read limit call w b (held ▸ rfl)
  prompt limit call w b held wf inBounds checked other := by
    have unpaced : (store pace).perform limit call = (store .unlimited).perform limit call := by
      cases call <;> first | rfl | cases other
    rw [unpaced, perform_alone limit call Pace.unlimited_isQuick (by rw [held]), held]
    rcases b.respond manner call with e | _ <;> rfl
  moved limit m w b held wf inBounds checked := by
    refine ⟨_, rfl, ?_⟩
    rw [perform_paced pace limit m (by rw [held]), held]
    rcases b.comesTo manner _ m.call with e | _ <;> rfl

/-- Requests to an empty store in which no fault is armed lead to solvent books. -/
theorem run_solvent (pace : Pace) (cache : Cache (StateM Shelf)) (limit : Duration)
    (users : List User) (supply : Supply) (shelf : Shelf) (rs : List Request) :
    ∃ b, (Services.run ⟨store pace, cache.map World.onShelf, limit⟩ rs
      ⟨⟨.opening users supply, none⟩, shelf⟩).store = ⟨b, none⟩ ∧ b.Solvent := by
  let s : Services (StateM (World Memory)) := ⟨store pace, cache.map World.onShelf, limit⟩
  let start : World Memory := ⟨⟨.opening users supply, none⟩, shelf⟩
  have aside : s.cache.Aside := Cache.onShelf_aside cache
  have opened : start.store = ⟨.opening users supply, none⟩ := rfl
  obtain ⟨b, held, solvent, -⟩ := s.run_solvent (store_regular pace).faithful aside opened
    (Books.opening_solvent users supply) rfl rs
  exact ⟨b, held, solvent⟩

end Memory

/-! ## In a database -/

namespace Database

variable {db : Database} {b : Books}

theorem truthful_on_stage (course : Course) :
    Truthful manner (Stage True) ((storeOn course).map World.onStore) where
  faithful limit call w b stage wf := by
    have spec := store_faithful course limit call w b stage.keeps wf
    have confined := perform_confined course limit call w.store
    rw [perform_onStore] at spec ⊢
    unfold World.onStore at spec ⊢
    rcases run : (storeOn course).perform limit call w.store with ⟨e | reply, db'⟩ <;>
      rw [run] at spec confined
    · exact ⟨stage.of_confined confined spec.1, spec.2⟩
    · obtain ⟨b', answered, keeps⟩ := spec
      exact ⟨b', answered, stage.of_confined confined keeps⟩
  aside := (store_truthful course).aside
  read limit call w b stage := (store_truthful course).read limit call w b stage.readable

/-- On a smooth course only the books decide. -/
theorem perform_smooth (stage : Stage True db b) (wf : b.WellFormed) (inBounds : b.InBounds)
    (limit : Option Duration) {call : StoreCall} (checked : call.Checked) :
    ((storeOn .smooth).perform limit call db).1 = (b.respond manner call).map Prod.fst := by
  have follows : Follows True b call _ :=
    perform_follows stage wf .smooth limit (fun _ => rfl) fun _ => ⟨inBounds, checked⟩
  rcases run : (storeOn .smooth).perform limit call db with ⟨e | reply, db'⟩ <;> rw [run] at follows
  · rw [follows fun _ => trivial]
    rfl
  · obtain ⟨b', answered, -⟩ := follows
    rw [answered]
    rfl

theorem prompt_on_stage (course : Course) (limit : Option Duration) (call : StoreCall)
    {w : World Database} (stage : Stage True w.store b) (wf : b.WellFormed) (inBounds : b.InBounds)
    (checked : call.Checked) (other : call.movement? = none) :
    (((storeOn course).map World.onStore).perform limit call w).1 =
      (b.respond manner call).map Prod.fst := by
  rw [perform_onStore]
  show ((storeOn course).perform limit call w.store).1 = _
  rw [perform_course course .smooth limit other]
  exact perform_smooth stage wf inBounds limit checked

theorem storeOn_regular (cutoff : Option Cutoff) :
    Regular manner (Stage True) (fun _ _ _ => True)
      ((storeOn ⟨cutoff, none⟩).map World.onStore) where
  toTruthful := truthful_on_stage _
  prompt limit call _ _ := prompt_on_stage _ limit call
  moved limit m w b stage wf inBounds checked := by
    rw [perform_onStore]
    show ∃ late, True ∧ ((storeOn ⟨cutoff, none⟩).perform limit m.call w.store).1 = _
    rcases perform_timed cutoff limit m w.store with ⟨d, late⟩ | same
    · exact ⟨some d, trivial, by rw [late]; rfl⟩
    · exact ⟨none, trivial, by rw [same]; exact perform_smooth stage wf inBounds limit checked⟩

theorem store_regular (deadline : Option Duration) :
    Regular manner (Stage True)
      (fun _ _ late => late = (Cutoff.ofDeadline deadline).map Cutoff.limit)
      ((store deadline).map World.onStore) where
  toTruthful := truthful_on_stage _
  prompt limit call _ _ := prompt_on_stage _ limit call
  moved limit m w b stage wf inBounds checked := by
    refine ⟨_, rfl, ?_⟩
    rw [perform_onStore]
    show ((storeOn (.ofDeadline deadline)).perform limit m.call w.store).1 = _
    rcases deadline with _ | d
    · exact perform_smooth stage wf inBounds limit checked
    by_cases expired : d.nanos = 0
    · have passed : Cutoff.ofDeadline (some d) = some ⟨d, 0⟩ := if_pos expired
      rw [Course.ofDeadline, passed, perform_expired (stage.free trivial) d limit m]
      rfl
    · have unhurried : Cutoff.ofDeadline (some d) = none := if_neg expired
      rw [Course.ofDeadline, unhurried]
      exact perform_smooth stage wf inBounds limit checked

/-- Requests to an empty database without guards whose pool is free lead to solvent books. -/
theorem run_solvent (deadline : Option Duration) {pool : Pool} (free : pool.IsFree)
    (cache : Cache (StateM Shelf)) (limit : Duration) (rows : List UserRow) (supply : Supply)
    (enforced : Bool) (shelf : Shelf) (rs : List Request) :
    ∃ b, Stage True (Services.run
      ⟨(store deadline).map World.onStore, cache.map World.onShelf, limit⟩ rs
      ⟨.opening rows supply [] enforced pool, shelf⟩).store b ∧ b.Solvent := by
  let s : Services (StateM (World Database)) :=
    ⟨(store deadline).map World.onStore, cache.map World.onShelf, limit⟩
  let start : World Database := ⟨.opening rows supply [] enforced pool, shelf⟩
  have aside : s.cache.Aside := Cache.onShelf_aside cache
  have opened : Stage True start.store (.opening (liveUsers rows) supply.inOrder) :=
    ⟨opening_keeps .., fun _ => rfl, fun _ => free⟩
  obtain ⟨b, held, solvent, -⟩ := s.run_solvent (store_regular deadline).faithful aside opened
    (Books.opening_solvent _ supply.inOrder) rfl rs
  exact ⟨b, held, solvent⟩

end Database

end WalletLedger
