import WalletLedger.Proofs.Endings
import WalletLedger.Proofs.Memory.Respond
import WalletLedger.Store.Call

/-!
# Calls of the memory store

A call of the memory store reads the books or takes one turn at the lock for
its unit of work (`perform_read`, `perform_write`). However its turn goes, it
comes to one of four `Ending`s (`perform_ends`): it is late, it meets an armed
fault, it is refused or it is answered as `Books.respond` says. Alone, in time
and without a fault it is what `Books.respond` says (`perform_alone`).
-/

namespace WalletLedger.Memory

variable {α β : Type} {w w' : World Memory}

/-- The pace at which a call is carried out: only writes to the ledger take time. -/
def Pace.of (pace : Pace) : StoreCall → Pace
  | .deposit _ _ | .withdraw _ _ | .purchase _ _ _ => pace
  | _ => .unlimited

/-- A pace at which nothing is late. -/
def Pace.IsQuick (pace : Pace) : Prop :=
  ∀ deadline, pace.deadline = some deadline → pace.latency.ticks ≤ deadline.ticks

theorem Pace.unlimited_isQuick : Pace.unlimited.IsQuick :=
  fun _ limited => absurd limited (by simp [unlimited])

theorem Pace.IsQuick.of {pace : Pace} (quick : pace.IsQuick) (call : StoreCall) :
    (pace.of call).IsQuick := by
  cases call with
  | deposit => exact quick
  | withdraw => exact quick
  | purchase => exact quick
  | _ => exact Pace.unlimited_isQuick

/-- A world with other books. -/
def withBooks (w : World Memory) (books : Books) : World Memory :=
  { w with store := { w.store with books } }

/-- A world in which no fault is armed. -/
def disarmed (w : World Memory) : World Memory :=
  { w with store := { w.store with fault := none } }

/-- The answer and the world that an outcome leads to. -/
def conclude (w : World Memory) : Except Failure (α × Books) → Except Failure α × World Memory
  | .ok (a, books) => (.ok a, withBooks w books)
  | .error e => (.error e, w)

/-! ## Calls as turns -/

theorem map_write (f : α → β) (pace : Pace) (work : Work α) :
    (f <$> write pace work : Attempt (Routine (World Memory)) β) = write pace (f <$> work) := by
  have attempt (m : Memory) : (f <$> work).attempt m =
      (((work.attempt m).1.map fun p => (f p.1, p.2)), (work.attempt m).2) := by
    simp only [Work.attempt, Work.map_apply]
    rcases work m.books m.fault with ⟨_ | ⟨_, _⟩, _⟩ <;> rfl
  show Routine.bind (write pace work) _ = write pace (f <$> work)
  simp only [write, Routine.bind]
  congr 2 <;> funext w
  · rw [attempt]
  · rw [attempt]; cases (work.attempt w.store).1 <;> rfl
  · funext v; rw [attempt]; cases (work.attempt w.store).1 <;> rfl
  · rw [attempt]; cases (work.attempt w.store).1 <;> rfl

/-- A read takes one turn, in which the books are looked at. -/
theorem perform_read (pace : Pace) (limit : Option Duration) {call : StoreCall}
    (reads : call.isRead) :
    (pacedStore pace).perform limit call = read limit (·.answer call) := by
  cases call <;> first | rfl | cases reads

/-- A write takes one turn, for its unit of work. -/
theorem perform_write (pace : Pace) (limit : Option Duration) {call : StoreCall}
    (writes : ¬ call.isRead) :
    (pacedStore pace).perform limit call = write (pace.of call) (Work.unit call) := by
  cases call <;> first | exact map_write _ _ _ | exact absurd rfl writes

/-! ## How calls end -/

/-- The ways in which a call with a given outcome may end in a world. -/
inductive Ending (outcome : Except Failure (α × Books)) (w : World Memory) :
    Except Failure α → World Memory → Prop
  | late (limit : Duration) : Ending outcome w (.error (.refused (.ofDeadline limit))) w
  | faulted {p : FaultPoint} (armed : w.store.fault = some p) :
    Ending outcome w (.error p.failure) (disarmed w)
  | refused {e : Failure} (result : outcome = .error e) : Ending outcome w (.error e) w
  | answered {a : α} {books : Books} (result : outcome = .ok (a, books)) :
    Ending outcome w (.ok a) (withBooks w books)

theorem read_ends {limit : Option Duration} {answer : Books → α} {r : Except Failure α}
    (h : (read limit answer).Ends w r w') :
    Ending (.ok (answer w.store.books, w.store.books)) w r w' := by
  cases h with
  | waited _ rest => cases rest; exact .late _
  | overran _ held => exact absurd held (by simp)
  | served rest => cases rest; exact .answered rfl

theorem write_ends {pace : Pace} {work : Work α} (spares : work.Spares) {r : Except Failure α}
    (h : (write pace work).Ends w r w') : Ending (work w.store.books none).1 w r w' := by
  rcases spares w.store.books w.store.fault with same | ⟨p, armed, fired⟩
  · rcases outcome : (work w.store.books none).1 with e | ⟨a, books⟩ <;> rw [outcome] at same
    · cases h with
      | waited _ rest => cases rest; exact .late _
      | overran _ held => simp [Work.attempt, same] at held
      | served rest =>
        simp only [Work.attempt, same] at rest
        cases rest
        exact .refused rfl
    · cases h with
      | waited _ rest => cases rest; exact .late _
      | overran _ _ rest =>
        simp only [Work.attempt, same] at rest
        cases rest
        exact .late _
      | served rest =>
        simp only [Work.attempt, same] at rest
        cases rest
        exact .answered rfl
  · cases h with
    | waited _ rest => cases rest; exact .late _
    | overran _ held => simp [Work.attempt, fired] at held
    | served rest =>
      simp only [Work.attempt, fired] at rest
      cases rest
      exact .faulted armed

theorem perform_ends {pace : Pace} {limit : Option Duration} {call : StoreCall}
    {r : Except Failure Reply} (h : ((pacedStore pace).perform limit call).Ends w r w') :
    Ending (w.store.books.respond manner call) w r w' := by
  by_cases reads : call.isRead
  · rw [perform_read pace limit reads] at h
    rw [Books.respond_read reads]
    exact read_ends h
  · rw [perform_write pace limit reads] at h
    rw [← Work.unit_respond]
    exact write_ends (Work.unit_spares call) h

/-! ## Calls one after another -/

theorem alone_map (f : α → β) (x : Attempt (Routine (World Memory)) α) :
    Routine.alone (f <$> x : Attempt (Routine (World Memory)) β) =
      (f <$> (Routine.alone x : Attempt (StateM (World Memory)) α) :
        Attempt (StateM (World Memory)) β) := by
  funext w
  show Routine.alone (Routine.bind x _) w = _
  rw [Routine.alone_bind]
  simp only [Functor.map, ExceptT.map, ExceptT.mk, bind, StateT.bind]
  rcases Routine.alone x w with ⟨_ | _, _⟩ <;> rfl

theorem perform_eq_alone (pace : Pace) (limit : Option Duration) (call : StoreCall) :
    (store pace).perform limit call = ((pacedStore pace).perform limit call).alone := by
  cases call <;> exact (alone_map _ _).symm

theorem perform_ending (pace : Pace) (limit : Option Duration) (call : StoreCall)
    (w : World Memory) : Ending (w.store.books.respond manner call) w
      ((store pace).perform limit call w).1 ((store pace).perform limit call w).2 := by
  rw [perform_eq_alone]
  exact perform_ends (Routine.ends_alone _ w)

theorem read_alone (limit : Option Duration) (answer : Books → α) :
    Routine.alone (read limit answer) w = (.ok (answer w.store.books), w) := by
  unfold read
  cases limit <;> rfl

theorem write_alone {pace : Pace} {work : Work α} (spares : work.Spares) (quick : pace.IsQuick)
    (unarmed : w.store.fault = none) :
    Routine.alone (write pace work) w = conclude w (work w.store.books none).1 := by
  have attempt : work.attempt w.store = ((work w.store.books none).1, w.store.fault) := by
    rw [Work.attempt, unarmed]
    exact spares.unarmed
  unfold write
  rcases outcome : (work w.store.books none).1 with e | ⟨a, books⟩ <;> rw [outcome] at attempt
  · rcases pace.deadline <;> simp [Routine.alone, Turn.isQuick, attempt, conclude, Except.map]
  · rcases deadline : pace.deadline with _ | limit
    · simp [Routine.alone, Turn.isQuick, attempt, conclude, Except.map, withBooks]
    · have inTime : pace.latency.ticks ≤ limit.ticks := quick limit deadline
      simp [Routine.alone, Turn.isQuick, attempt, conclude, Except.map, withBooks, inTime]

/-- Nothing is late at a quick pace, so without a fault only the books decide. -/
theorem perform_alone {pace : Pace} (limit : Option Duration) (call : StoreCall)
    (quick : pace.IsQuick) (unarmed : w.store.fault = none) :
    (store pace).perform limit call w = conclude w (w.store.books.respond manner call) := by
  rw [perform_eq_alone]
  by_cases reads : call.isRead
  · rw [perform_read pace limit reads, Books.respond_read reads]
    exact read_alone limit _
  · rw [perform_write pace limit reads, ← Work.unit_respond]
    exact write_alone (Work.unit_spares call) (quick.of call) unarmed

end WalletLedger.Memory
