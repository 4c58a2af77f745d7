import WalletLedger.Proofs.Books.Movements
import WalletLedger.Proofs.Database.Atomicity

/-!
# Cutoffs

A cutoff decides only where the steps of a unit of work end. They are `Timed`:
with a cutoff ahead of them they come to what they come to without one, or end
because it passed. So a call that takes no longer than it may is what it is on
a smooth course, and otherwise it is late and has changed nothing
(`perform_timed`). A deadline of no length has always passed (`perform_expired`).
-/

namespace WalletLedger.Database

open Memory Query

variable {α β : Type}

namespace Work

/-- With a cutoff ahead of them steps come to the same, or end because it passed. -/
def Timed (x : Work α) : Prop :=
  ∀ db cutoff, (x ⟨db, none⟩).2.cutoff = none ∧
    ((∃ limit, (x ⟨db, cutoff⟩).1 = .error (.refused (.ofDeadline limit))) ∨
      (x ⟨db, cutoff⟩).1 = (x ⟨db, none⟩).1 ∧
        (x ⟨db, cutoff⟩).2.database = (x ⟨db, none⟩).2.database)

theorem Timed.bind {x : Work α} {f : α → Work β} (hx : x.Timed) (hf : ∀ a, (f a).Timed) :
    (x >>= f).Timed := by
  intro db cutoff
  obtain ⟨ahead, ends⟩ := hx db cutoff
  rw [Attempt.bind_apply, Attempt.bind_apply]
  rcases free : x ⟨db, none⟩ with ⟨r, db', c⟩
  rcases run : x ⟨db, cutoff⟩ with ⟨r', db'', c'⟩
  rw [free, run] at ends
  rw [free] at ahead
  obtain rfl : c = none := ahead
  rcases ends with ⟨limit, late⟩ | ⟨same, kept⟩
  · obtain rfl : r' = _ := late
    refine ⟨?_, .inl ⟨limit, rfl⟩⟩
    rcases r with e | a
    · rfl
    · exact (hf a db' none).1
  · obtain rfl : r' = r := same
    obtain rfl : db'' = db' := kept
    rcases r' with e | a
    · exact ⟨rfl, .inr ⟨rfl, rfl⟩⟩
    · exact hf a db'' c'

/-- Steps that never look at the cutoff. -/
theorem timed_of_blind {x : Work α}
    (blind : ∀ db cutoff,
      x ⟨db, cutoff⟩ = ((x ⟨db, none⟩).1, ⟨(x ⟨db, none⟩).2.database, cutoff⟩)) :
    x.Timed := fun db cutoff =>
  ⟨by rw [blind db none], .inr ⟨by rw [blind], by rw [blind]⟩⟩

theorem timed_query (q : Query α) : (query q).Timed := by
  refine timed_of_blind fun db cutoff => ?_
  unfold query
  rcases q db with e | ⟨a, db'⟩ <;> rfl

theorem timed_tick : tick.Timed := by
  intro db cutoff
  refine ⟨rfl, ?_⟩
  rcases cutoff with _ | ⟨limit, _ | n⟩
  · exact .inr ⟨rfl, rfl⟩
  · exact .inl ⟨limit, rfl⟩
  · exact .inr ⟨rfl, rfl⟩

/-- Whatever the queries are, the steps of a unit are timed. -/
theorem timed_stepwise : Stepwise (fun _ => True) Timed where
  queries := ⟨⟨fun _ _ => trivial, fun _ => trivial, fun _ => trivial, fun _ _ => trivial⟩, trivial,
    trivial, fun _ => trivial, fun _ => trivial⟩
  bind := Timed.bind
  pure _ := timed_of_blind fun _ _ => rfl
  throw _ := timed_of_blind fun _ _ => rfl
  tick := timed_tick
  query _ := timed_query _

/-- The unit of work of a movement. -/
def movement : Movement → Work Entry
  | .deposit user amount => deposit user amount
  | .withdraw user amount => withdraw user amount
  | .purchase user id quantity => purchase user id quantity

theorem timed_movement (m : Movement) : (movement m).Timed := by
  cases m with
  | deposit user amount => exact timed_stepwise.deposit amount
  | withdraw user amount => exact timed_stepwise.withdraw amount
  | purchase user id quantity =>
    exact timed_stepwise.purchase (timed_stepwise.writeStock fun _ => trivial) quantity

/-- A unit on a course on which the commit is taken is what it is on a smooth
course, or it is late. -/
theorem Timed.attempt {x : Work α} (timed : x.Timed) (cutoff : Option Cutoff) (db : Database) :
    (∃ limit, (x.attempt ⟨cutoff, none⟩ db).1 = .error (.refused (.ofDeadline limit))) ∨
      x.attempt ⟨cutoff, none⟩ db = x.attempt .smooth db := by
  unfold Work.attempt
  rcases begin db with e | ⟨_, begun⟩
  · exact .inr rfl
  obtain ⟨-, ends⟩ := timed begun cutoff
  simp only [Course.smooth]
  rcases free : x ⟨begun, none⟩ with ⟨r, t⟩
  rcases run : x ⟨begun, cutoff⟩ with ⟨r', t'⟩
  rw [free, run] at ends
  rcases ends with ⟨limit, late⟩ | ⟨same, kept⟩
  · obtain rfl : r' = _ := late
    exact .inl ⟨limit, rfl⟩
  · obtain rfl : r' = r := same
    right
    obtain kept : t'.database = t.database := kept
    rcases r' with e | a <;> simp [settle, Transaction.rollBack, kept]

end Work

/-! ## Calls -/

theorem perform_movement (course : Course) (limit : Option Duration) (m : Movement) :
    (storeOn course).perform limit m.call = Reply.entry <$> (Work.movement m).attempt course := by
  cases m <;> rfl

/-- A movement is carried out as on a smooth course, or it is late and has changed nothing. -/
theorem perform_timed (cutoff : Option Cutoff) (limit : Option Duration) (m : Movement)
    (db : Database) :
    (∃ d, (storeOn ⟨cutoff, none⟩).perform limit m.call db =
      (.error (.refused (.ofDeadline d)), db)) ∨
      (storeOn ⟨cutoff, none⟩).perform limit m.call db =
        (storeOn .smooth).perform limit m.call db := by
  have atomic := perform_atomic ⟨cutoff, none⟩ limit m.call db
  rw [perform_movement, perform_movement, Attempt.map_apply, Attempt.map_apply] at *
  rcases (Work.timed_movement m).attempt cutoff db with ⟨d, late⟩ | same
  · rw [late] at atomic ⊢
    exact .inl ⟨d, Prod.ext rfl (atomic _ _ rfl)⟩
  · exact .inr (by rw [same])

/-- A deadline of no length has passed before the first statement. -/
theorem perform_expired {db : Database} (free : db.pool.IsFree) (d : Duration)
    (limit : Option Duration) (m : Movement) :
    (storeOn ⟨some ⟨d, 0⟩, none⟩).perform limit m.call db =
      (.error (.refused (.ofDeadline d)), db) := by
  have stopped : Work.movement m ⟨db, some ⟨d, 0⟩⟩ =
      (.error (.refused (.ofDeadline d)), ⟨db, some ⟨d, 0⟩⟩) := by
    cases m <;> rfl
  rw [perform_movement, Attempt.map_apply]
  rcases Work.attempt_cases (Work.movement m) ⟨some ⟨d, 0⟩, none⟩ db with ⟨hindered, -⟩ | settled
  · exact absurd free hindered
  · rw [settled, stopped]
    rfl

/-- Only movements depend on the course. -/
theorem perform_course (course course' : Course) (limit : Option Duration) {call : StoreCall}
    (other : call.movement? = none) :
    (storeOn course).perform limit call = (storeOn course').perform limit call := by
  cases call <;> first | rfl | cases other

end WalletLedger.Database
