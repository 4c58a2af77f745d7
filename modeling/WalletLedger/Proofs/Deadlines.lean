import WalletLedger.Proofs.Database.Cutoffs
import WalletLedger.Proofs.Database.Rows
import WalletLedger.Proofs.Linearization

/-!
# Deadlines of movements

A deadline bounds when a movement is carried out, and never hides that it was. In memory that holds
on every schedule of movements, because a write is an errand that changes the books only when it is
answered (`errand_answered`): a movement that is answered was carried out by then, and one that is
late stood in the queue or at the lock when its time was over, and leaves both without a trace. In a
database a deadline of no length stops every movement before its first statement
(`deadlines_bound_movements`).
-/

namespace WalletLedger

open Memory Timeline

namespace Memory

/-- A movement that is answered is carried out on the books as they are. -/
theorem errand_answered {pace : Pace} {m : Movement} {w : World Memory} {reply : Reply}
    (answered : (errand pace (Work.unit m.call)).answer w = .ok reply) :
    ∃ books, w.store.books.respond manner m.call = .ok (reply, books) ∧
      (errand pace (Work.unit m.call)).after w = withBooks w books := by
  rcases Work.unit_spares m.call w.store.books w.store.fault with same | ⟨p, -, fired⟩
  · have attempt : (Work.unit m.call).attempt w.store =
        (w.store.books.respond manner m.call, w.store.fault) := by
      rw [← Work.unit_respond]
      exact same
    rcases outcome : w.store.books.respond manner m.call with e | ⟨reply', books⟩ <;>
      rw [outcome] at attempt <;> simp only [errand, attempt] at answered
    · cases answered
    · cases answered
      exact ⟨books, rfl, by simp [errand, Errand.after, attempt, withBooks]⟩
  · have attempt : (Work.unit m.call).attempt w.store = (.error p.failure, none) := fired
    simp only [errand, attempt] at answered
    cases answered

/-- How the movement of a number, asked for at a time, is answered on a schedule: not up to a moment
in which it is looked at, and as told from then on. -/
structure AnsweredAt {routines : List (Nat × Routine (World Memory) (Except Failure Reply))}
    {w : World Memory} (S : Schedule routines w) (latency limit : Duration) (i : Nat) (m : Movement)
    (begun n time : Nat) (answer : Except Failure Reply) : Prop where
  looked : S.looks n = some i
  clock : (S.moment n).shared.clock = time
  before : ∀ k ≤ n, ∃ slot, (S.moment k).slots[i]? = some slot ∧ slot.phase ≠ .past
  after : ∀ k, n < k → (S.moment k).slots[i]? = some (.finished time answer)
  /-- It is carried out as it is answered, and in time. -/
  inTime : ∀ reply, answer = .ok reply → time ≤ begun + limit.ticks ∧
    ∃ books, (S.moment n).shared.world.store.books.respond manner m.call = .ok (reply, books) ∧
      (S.moment (n + 1)).shared.world = withBooks (S.moment n).shared.world books
  /-- It is late when its time is over, while it waits for the lock or has it for longer. -/
  late : IsLate answer → answer = .error (.refused (.ofDeadline limit)) ∧
    time = begun + limit.ticks ∧ ∃ slot, (S.moment n).slots[i]? = some slot ∧
      HeldUp (errand ⟨latency, some limit⟩ (Work.unit m.call)) i (S.moment n).shared slot
  /-- When it is late it changes nothing, neither then nor before nor afterwards. -/
  idle : IsLate answer → ∀ k, S.looks k = some i →
    (S.moment (k + 1)).shared.world = (S.moment k).shared.world
  /-- It leaves the lock and the queue. -/
  gone : ∀ k, n < k → (S.moment k).shared.owner ≠ some i ∧ i ∉ (S.moment k).shared.queue

theorem answered_of_finished {latency limit : Duration} {calls : List (Nat × Movement)}
    {w : World Memory} (S : Schedule (asked ⟨latency, some limit⟩ calls) w) {i begun k time : Nat}
    {m : Movement} {answer : Except Failure Reply} (call : calls[i]? = some (begun, m))
    (finished : (S.moment k).slots[i]? = some (.finished time answer)) :
    ∃ n, n < k ∧ AnsweredAt S latency limit i m begun n time answer := by
  revert S
  rw [asked_errands]
  intro S finished
  have errand : (errands ⟨latency, some limit⟩ calls)[i]? =
      some (begun, errand ⟨latency, some limit⟩ (Work.unit m.call)) := by
    rw [errands, List.getElem?_map, call]
    rfl
  obtain ⟨n, earlier, h⟩ := S.concludes (errands_staged _ calls) errand finished
  refine ⟨n, earlier, h.looked, h.clock, h.before, h.after, fun reply ok => ?_, fun late => ?_,
    fun late k looks => h.idle k looks (.inr late), h.gone⟩
  · subst ok
    obtain ⟨answered, after⟩ := h.carried (not_isLate_ok reply)
    obtain ⟨books, responded, carried⟩ := errand_answered answered.symm
    exact ⟨h.inTime _ rfl, books, responded, after.trans carried⟩
  · obtain ⟨answered, due, heldUp⟩ := h.late late
    exact ⟨answered, (Option.some.inj due).symm, heldUp⟩

end Memory

namespace Database

/-- A transaction begins only on a pool that gives a connection and the write lock. -/
theorem isFree_of_begin {db begun : Database} (began : begin db = .ok ((), begun)) :
    db.pool.IsFree := by
  have started : begin db =
      (Query.ofEngine db.pool.acquire >>= fun _ => Query.lockForWriting) db := rfl
  rcases acquired : db.pool.acquire with e | _ <;> rw [started, acquired] at began
  · cases began
  have locks : (Query.ofEngine (.ok ()) >>= fun _ => Query.lockForWriting) db =
      Query.ofEngine db.pool.lockForWriting db := rfl
  rcases locked : db.pool.lockForWriting with e | _ <;> rw [locks, locked] at began
  · cases began
  · exact ⟨acquired, locked⟩

end Database

/-- Movements in memory, of any number, asked for at any times and carried out at any latency on any
schedule: one that is answered with an entry was carried out no later than its time was over; one
that is late had its time over then, was still held up, and leaves no trace. Looked at in turn, all
of them are answered. In a database a movement with no time at all changes nothing and is late,
unless its transaction does not begin. -/
theorem deadlines_bound_movements :
    (∀ (latency limit : Duration) (calls : List (Nat × Movement)) (w : World Memory),
      let routines := calls.map fun c =>
        (c.1, (pacedStore ⟨latency, some limit⟩).perform none c.2.call)
      let settled := settle 1 routines w
      (∀ (S : Schedule routines w) (i begun k time : Nat) (m : Movement)
          (answer : Except Failure Reply), calls[i]? = some (begun, m) →
        (S.moment k).slots[i]? = some (.finished time answer) →
        ∃ n, n < k ∧ AnsweredAt S latency limit i m begun n time answer) ∧
      ∃ (S : Schedule routines w) (n : Nat), Settled settled.2 ∧
        ∀ k, n ≤ k → S.moment k = ⟨settled.1, settled.2⟩) ∧
    ∀ (m : Movement) (wait : Option Duration) (db begun : Database),
      Database.begin db = .ok ((), begun) →
      (Database.store (some ⟨0⟩)).perform wait m.call db =
        (.error (.refused (.ofDeadline ⟨0⟩)), db) := by
  refine ⟨fun latency limit calls w => ?_, fun m wait db begun began => ?_⟩
  · refine ⟨fun S i begun k time m answer => answered_of_finished S, ?_⟩
    show ∃ (S : Schedule (asked ⟨latency, some limit⟩ calls) w) (n : Nat),
      Settled (settle 1 (asked ⟨latency, some limit⟩ calls) w).2 ∧ ∀ k, n ≤ k → S.moment k =
        ⟨(settle 1 (asked ⟨latency, some limit⟩ calls) w).1,
          (settle 1 (asked ⟨latency, some limit⟩ calls) w).2⟩
    rw [asked_errands]
    obtain ⟨ended, n, reached⟩ := inTurn_settles (errands_staged ⟨latency, some limit⟩ calls) w
    exact ⟨_, n, ended, reached⟩
  · exact Database.perform_expired (Database.isFree_of_begin began) ⟨0⟩ wait m

/-- A timer of half a millisecond goes off at the tick at which a latency of a whole one is over,
and what is over by then is in time. -/
example :
    let deposit : Movement := .deposit "u" ⟨500⟩
    let pace : Pace := ⟨⟨1000000⟩, some ⟨500000⟩⟩
    let w : World Memory := ⟨⟨Books.empty.addWallet (Books.empty.newWallet "u"), none⟩, .empty⟩
    let settled := settle 1 [(0, (pacedStore pace).perform none deposit.call)] w
    (settled.1.clock, settled.1.world.store.books.entries.length) = (1, 1) := by
  decide +kernel

/-- Three deposits at once, of which one fits into the time that they have: the second one is
late while it has the lock, and the third one while it waits. In a database with no time none of
them is carried out. -/
theorem deadline_passes_at_the_lock :
    let latency := Duration.ofMillis 5
    let limit := Duration.ofMillis 8
    let late : Except Failure Reply := .error (.refused (.ofDeadline limit))
    let deposit : Movement := .deposit "u" ⟨500⟩
    let calls := [(0, deposit), (0, deposit), (0, deposit)]
    let w : World Memory := ⟨⟨Books.empty.addWallet (Books.empty.newWallet "u"), none⟩, .empty⟩
    let db : Database := .opening [] .start [] true ⟨4, ⟨0⟩, true, false⟩
    ∃ (S : Schedule (calls.map fun c =>
        (c.1, (pacedStore ⟨latency, some limit⟩).perform none c.2.call)) w) (n₀ n₁ n₂ : Nat)
        (reply : Reply),
      AnsweredAt S latency limit 0 deposit 0 n₀ 5 (.ok reply) ∧
      AnsweredAt S latency limit 1 deposit 0 n₁ 8 late ∧
      AnsweredAt S latency limit 2 deposit 0 n₂ 8 late ∧
      (Database.store (some ⟨0⟩)).perform none deposit.call db =
        (.error (.refused (.ofDeadline ⟨0⟩)), db) := by
  dsimp only
  obtain ⟨bounded, S, n, -, reached⟩ := deadlines_bound_movements.1 (.ofMillis 5) (.ofMillis 8)
    [(0, .deposit "u" ⟨500⟩), (0, .deposit "u" ⟨500⟩), (0, .deposit "u" ⟨500⟩)]
    ⟨⟨Books.empty.addWallet (Books.empty.newWallet "u"), none⟩, .empty⟩
  have ended := congrArg Moment.slots (reached n (Nat.le_refl n))
  obtain ⟨n₀, -, first⟩ := bounded S 0 0 n 5 _ (.ok _) rfl (by rw [ended]; rfl)
  obtain ⟨n₁, -, second⟩ := bounded S 1 0 n 8 _ (.error _) rfl (by rw [ended]; rfl)
  obtain ⟨n₂, -, third⟩ := bounded S 2 0 n 8 _ (.error _) rfl (by rw [ended]; rfl)
  exact ⟨S, n₀, n₁, n₂, _, first, second, third, deadlines_bound_movements.2 _ none _ _ rfl⟩

end WalletLedger
