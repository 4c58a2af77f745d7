import WalletLedger.Proofs.Books.Movements
import WalletLedger.Proofs.Memory.Store
import WalletLedger.Proofs.Timeline.Rounds

/-!
# Concurrent movements in memory

A write of the memory store is an errand: it stages its work in the world in
which it obtained the lock and changes nothing before its turn is over
(`errand_staged`). So movements that are asked for at once, at any times and at
any pace, come on every schedule to what those of them that were not late come
to one after another in the order in which they obtained the lock
(`concurrent_movements_linearize`).
-/

namespace WalletLedger

open Memory Timeline

/-- Whether an answer says that the deadline was exceeded. -/
def IsLate {α : Type} (r : Except Failure α) : Prop :=
  ∃ millis, r = .error (.refused (.deadlineExceeded millis))

theorem not_isLate_ok {α : Type} (a : α) : ¬ IsLate (.ok a) := by
  rintro ⟨millis, late⟩
  cases late

namespace Memory

variable {α : Type}

/-- A write as an errand. -/
def errand (pace : Pace) (work : Work α) : Errand (World Memory) (Except Failure α) where
  turn := {
    limit := pace.deadline.map (·.ticks)
    enter := fun w => { w with store := { w.store with fault := (work.attempt w.store).2 } }
    hold := fun w =>
      match (work.attempt w.store).1 with
      | .ok _ => pace.latency.ticks
      | .error _ => 0
    commit := fun entry w =>
      match (work.attempt entry.store).1 with
      | .ok (_, books) => { w with store := { w.store with books } }
      | .error _ => w }
  late := .error (.refused (.ofDeadline (pace.deadline.getD ⟨0⟩)))
  answer w := (work.attempt w.store).1.map (·.1)

theorem perform_errand (pace : Pace) (m : Movement) :
    (pacedStore pace).perform none m.call = (errand pace (Work.unit m.call)).routine := by
  rw [perform_write pace none m.call_writes]
  cases m <;> rfl

/-- Alone and without limits a movement does what its errand does when it is in time. -/
theorem perform_unlimited (pace : Pace) (m : Movement) (w : World Memory) :
    (store .unlimited).perform none m.call w =
      ((errand pace (Work.unit m.call)).answer w, (errand pace (Work.unit m.call)).after w) := by
  rw [perform_eq_alone, perform_errand]
  cases m <;> rfl

/-- The books never refuse a movement because it is late. -/
theorem Books.respond_timely (how : Manner) (b : Books) (m : Movement) :
    ¬ IsLate (b.respond how m.call) := by
  rintro ⟨millis, late⟩
  cases m with
  | deposit user amount =>
    rw [Movement.call, respond] at late
    repeat' split at late
    all_goals cases late
  | withdraw user amount =>
    rw [Movement.call, respond] at late
    repeat' split at late
    all_goals cases late
  | purchase user id quantity =>
    rw [Movement.call, respond] at late
    repeat' split at late
    all_goals cases late

theorem errand_staged (pace : Pace) (m : Movement) :
    Staged IsLate (errand pace (Work.unit m.call)) where
  enter w held := by
    have spares := Work.unit_spares m.call w.store.books w.store.fault
    rcases spares with same | ⟨p, -, fired⟩
    · have kept : ((Work.unit m.call).attempt w.store).2 = w.store.fault := congrArg Prod.snd same
      simp only [errand, kept]
    · have stopped : ((Work.unit m.call).attempt w.store).1 = .error p.failure :=
        congrArg Prod.fst fired
      simp [errand, stopped] at held
  late := ⟨_, rfl⟩
  timely w := by
    rintro ⟨millis, late⟩
    have failed : ((Work.unit m.call).attempt w.store).1 =
        .error (.refused (.deadlineExceeded millis)) := by
      rcases outcome : ((Work.unit m.call).attempt w.store).1 with e | p <;>
        simp only [errand, outcome] at late <;> cases late
      rfl
    rcases Work.unit_spares m.call w.store.books w.store.fault with same | ⟨p, -, fired⟩
    · have responded : w.store.books.respond manner m.call =
          .error (.refused (.deadlineExceeded millis)) :=
        (Work.unit_respond m.call).symm.trans ((congrArg Prod.fst same).symm.trans failed)
      exact w.store.books.respond_timely manner m ⟨millis, responded⟩
    · cases (congrArg Prod.fst fired).symm.trans failed

/-- Movements that are asked for at given times. -/
def asked (pace : Pace) (calls : List (Nat × Movement)) :
    List (Nat × Routine (World Memory) (Except Failure Reply)) :=
  calls.map fun c => (c.1, (pacedStore pace).perform none c.2.call)

/-- The errands of movements. -/
def errands (pace : Pace) (calls : List (Nat × Movement)) :
    List (Nat × Errand (World Memory) (Except Failure Reply)) :=
  calls.map fun c => (c.1, errand pace (Work.unit c.2.call))

theorem asked_errands (pace : Pace) (calls : List (Nat × Movement)) :
    asked pace calls = (errands pace calls).map fun c => (c.1, c.2.routine) := by
  simp [asked, errands, perform_errand]

theorem errands_staged (pace : Pace) (calls : List (Nat × Movement)) :
    ∀ c ∈ errands pace calls, Staged IsLate c.2 :=
  List.forall_mem_map.mpr fun c _ => errand_staged pace c.2

/-- Calls of the store one after another without latency or deadline: what
they answer, and the world after them. -/
def inOrder : List StoreCall → World Memory → List (Except Failure Reply) × World Memory
  | [], w => ([], w)
  | call :: calls, w =>
    let first := (store .unlimited).perform none call w
    let rest := inOrder calls first.2
    (first.1 :: rest.1, rest.2)

theorem inOrder_concat (calls : List StoreCall) (call : StoreCall) (w : World Memory) :
    inOrder (calls ++ [call]) w =
      let rest := inOrder calls w
      let last := (store .unlimited).perform none call rest.2
      (rest.1 ++ [last.1], last.2) := by
  induction calls generalizing w with
  | nil => rfl
  | cons c calls ih => simp only [List.cons_append, inOrder, ih]

variable {pace : Pace} {calls : List (Nat × Movement)}

/-- What is replayed are the calls in the order of the log. -/
theorem inOrder_of_replays {start w : World Memory} {log : List (Nat × Except Failure Reply)}
    (replays : Replays ((errands pace calls).map (·.2)) start log w)
    {answer : Fin calls.length → Option (Except Failure Reply)}
    (answered : ∀ i, ∀ a, (i.val, a) ∈ log → answer i = some a) :
    ∃ order : List (Fin calls.length), order.map Fin.val = log.map Prod.fst ∧
      (inOrder (order.map fun i => calls[i].2.call) start).1.map some = order.map answer ∧
      (inOrder (order.map fun i => calls[i].2.call) start).2 = w := by
  induction replays with
  | none => exact ⟨[], rfl, rfl, rfl⟩
  | @snoc log w i e _ there ih =>
    obtain ⟨order, same, answers, run⟩ :=
      ih fun i a mem => answered i a (List.mem_append_left _ mem)
    rw [errands, List.map_map, List.getElem?_map] at there
    obtain ⟨c, found, rfl⟩ := Option.map_eq_some_iff.mp there
    obtain ⟨inside, rfl⟩ := List.getElem?_eq_some_iff.mp found
    refine ⟨order ++ [⟨i, inside⟩], by simp [same], ?_⟩
    have mine := answered ⟨i, inside⟩ _ (List.mem_append_right _ (List.mem_singleton_self _))
    rw [List.map_append, List.map_append, List.map_singleton, List.map_singleton, inOrder_concat,
      ← answers, mine]
    simp only [run, perform_unlimited pace, List.map_append]
    exact ⟨rfl, rfl⟩

/-- What movements came to by a moment, if whoever has an answer by then and was not late is
replayed in an order. -/
structure Linearized (calls : List (Nat × Movement)) (w : World Memory)
    (m : Moment (World Memory) (Except Failure Reply))
    (answer : Fin calls.length → Option (Except Failure Reply))
    (order : List (Fin calls.length)) : Prop where
  answers : m.slots.map Slot.answer? = List.ofFn answer
  /-- Nobody obtains the lock twice. -/
  nodup : m.shared.served.Nodup
  /-- The order is the one in which the lock was obtained. -/
  served : (order.map Fin.val).Sublist m.shared.served
  timely : ∀ i, i ∈ order ↔ ∃ a, answer i = some a ∧ ¬ IsLate a
  /-- One after another they come to the same answers. -/
  same : (inOrder (order.map fun i => calls[i].2.call) w).1.map some = order.map answer
  /-- One after another they come to the same world. -/
  world : (inOrder (order.map fun i => calls[i].2.call) w).2 = m.shared.world

/-- What is true of the errands of movements tells what the movements came to. -/
theorem linearized_of_linear {w : World Memory}
    {m : Moment (World Memory) (Except Failure Reply)}
    (linear : Linear ((errands pace calls).map (·.2)) IsLate w m.shared m.slots) :
    ∃ answer order, Linearized calls w m answer order := by
  have length : m.slots.length = calls.length := by simpa [errands] using linear.length
  let answer (i : Fin calls.length) : Option (Except Failure Reply) :=
    m.slots[i.val]?.bind Slot.answer?
  have finished {i : Fin calls.length} {a : Except Failure Reply} :
      answer i = some a ↔ ∃ time, m.slots[i.val]? = some (.finished time a) := by
    show m.slots[i.val]?.bind Slot.answer? = some a ↔ _
    rw [Option.bind_eq_some_iff]
    constructor
    · rintro ⟨slot, there, answered⟩
      cases slot with
      | finished time a' => exact ⟨time, Option.some.inj answered ▸ there⟩
      | _ => cases answered
    · exact fun ⟨time, there⟩ => ⟨_, there, rfl⟩
  obtain ⟨log, replays, sub, logs⟩ := linear.log
  have logged (i : Fin calls.length) (a : Except Failure Reply) :
      (i.val, a) ∈ log ↔ answer i = some a ∧ ¬ IsLate a := by
    rw [logs i.val a, finished]
  obtain ⟨order, same, answers, world⟩ :=
    inOrder_of_replays replays fun i a mem => ((logged i a).mp mem).1
  refine ⟨answer, order, ?_, linear.lock.servedNodup, same ▸ sub, fun i => ?_, answers, world⟩
  · refine List.ext_getElem? fun i => ?_
    by_cases inside : i < calls.length
    · have there : i < m.slots.length := length ▸ inside
      simp [answer, inside, there]
    · simp [inside, length]
  · have mem : i ∈ order ↔ i.val ∈ order.map Fin.val :=
      (List.mem_map_of_injective fun _ _ => Fin.eq_of_val_eq).symm
    rw [mem, same, List.mem_map]
    constructor
    · rintro ⟨⟨j, a⟩, found, rfl⟩
      exact ⟨a, (logged i a).mp found⟩
    · exact fun ⟨a, answered⟩ => ⟨(i.val, a), (logged i a).mpr answered, rfl⟩

end Memory

/-- Movements that are asked for at any times, at any pace and in any world. On every schedule and
at every moment of it, those of them that have an answer and were not late are those of one order,
in which they obtained the lock: one after another in this order, without latency or deadline, they
come to the same answers and to the same world, with the same wallets, products, entries and fault.
So the late ones count for nothing, nor do those that still wait or work. There is a schedule on
which all of them have an answer in the end. -/
theorem concurrent_movements_linearize (pace : Pace) (calls : List (Nat × Movement))
    (w : World Memory) :
    let routines := calls.map fun c => (c.1, (pacedStore pace).perform none c.2.call)
    (∀ (S : Schedule routines w) (n : Nat),
      ∃ answer order, Linearized calls w (S.moment n) answer order) ∧
    ∃ (S : Schedule routines w) (n : Nat), Settled (S.moment n).slots := by
  show (∀ (S : Schedule (asked pace calls) w) (n : Nat),
      ∃ answer order, Linearized calls w (S.moment n) answer order) ∧
    ∃ (S : Schedule (asked pace calls) w) (n : Nat), Settled (S.moment n).slots
  rw [asked_errands]
  have staged := errands_staged pace calls
  refine ⟨fun S n => linearized_of_linear (S.orderly staged n).linear, ?_⟩
  obtain ⟨ended, n, reached⟩ := inTurn_settles staged w
  exact ⟨inTurn staged w, n, reached n (Nat.le_refl n) ▸ ended⟩

end WalletLedger
