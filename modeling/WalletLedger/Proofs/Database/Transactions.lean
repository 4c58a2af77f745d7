import WalletLedger.Database.Transaction
import WalletLedger.Proofs.Attempts
import WalletLedger.Proofs.Database.Queries

/-!
# What transactions do

The steps of a unit of work are followed by rules as those of a query are
(`Work.Meets`); a cutoff may be in their way as well. Steps are `Within` a
relation whether they answer or fail: a unit that answers is then within it too
(`attempt_ok`), and a failed unit of steps that are `Confined` to the tables and
the supply leaves the database as it was (`attempt_error`).
-/

namespace WalletLedger.Database.Work

variable {α β : Type} {clear : Prop} {db : Database} {P : Failure → Prop}

/-- The goal `Q` holds of what steps answer and of the database after them.
`P` holds of the failure in which they end, if it is no refusal or the way is clear. -/
def Meets (clear : Prop) (x : Work α) (db : Database) (Q : α → Database → Prop)
    (P : Failure → Prop) : Prop :=
  ∀ cutoff, (clear → cutoff = none) →
    match x ⟨db, cutoff⟩ with
    | (.ok a, t) => Q a t.database ∧ (clear → t.cutoff = none)
    | (.error e, _) => (e.isRefusal → clear) → P e

/-! ## Rules -/

section Rules

variable {Q : α → Database → Prop}

theorem meets_bind {x : Work β} {f : β → Work α}
    (h : Meets clear x db (fun b db => Meets clear (f b) db Q P) P) :
    Meets clear (x >>= f) db Q P := by
  intro cutoff ahead
  have first := h cutoff ahead
  rw [Attempt.bind_apply]
  rcases hx : x ⟨db, cutoff⟩ with ⟨e | b, t⟩ <;> rw [hx] at first
  · exact first
  · exact first.1 t.cutoff first.2

theorem meets_pure {a : α} (h : Q a db) : Meets clear (pure a) db Q P :=
  fun _ ahead => ⟨h, ahead⟩

theorem meets_refuse {e : LedgerError} (h : clear → P (.refused e)) :
    Meets clear (refuse e : Work α) db Q P :=
  fun _ _ clearly => h (clearly rfl)

theorem meets_orRefuse {e : LedgerError} {found : Option α}
    (missing : found = none → clear → P (.refused e)) (there : ∀ a, found = some a → Q a db) :
    Meets clear (orRefuse e found) db Q P := by
  rcases found with _ | a
  · exact meets_refuse (missing rfl)
  · exact meets_pure (there a rfl)

theorem meets_compute {r : Except Abort α}
    (stopped : ∀ cause, r = .error cause → P (.aborted cause)) (done : ∀ a, r = .ok a → Q a db) :
    Meets clear (compute r) db Q P := by
  rcases r with cause | a
  · exact fun _ _ _ => stopped cause rfl
  · exact fun _ ahead => ⟨done a rfl, ahead⟩

theorem meets_query {q : Query α}
    (h : q.Meets clear db Q fun e => P (.refused (.ofDatabase e))) :
    Meets clear (query q) db Q P := by
  intro cutoff ahead
  unfold Query.Meets at h
  unfold query
  rcases hq : q db with e | ⟨a, db'⟩ <;> rw [hq] at h
  · exact fun clearly => h (clearly rfl)
  · exact ⟨h, ahead⟩

theorem meets_statement {q : Query α}
    (h : q.Meets clear db Q fun e => P (.refused (.ofDatabase e))) :
    Meets clear (statement q) db Q P := by
  refine meets_bind fun cutoff ahead => ?_
  rcases cutoff with _ | ⟨limit, _ | n⟩
  · exact ⟨meets_query h, ahead⟩
  · exact fun clearly => absurd (ahead (clearly rfl)) (by simp)
  · exact ⟨meets_query h, fun c => absurd (ahead c) (by simp)⟩

/-- Steps that may be refused before they go on. -/
theorem meets_guard {c : Prop} [Decidable c] {e : LedgerError} {x : Unit → Work α}
    (refused : c → clear → P (.refused e)) (h : ¬ c → Meets clear (x ()) db Q P) :
    Meets clear (if c then refuse e >>= x else x ()) db Q P := by
  split
  · next hc => exact meets_bind (meets_refuse (refused hc))
  · next hc => exact h hc

end Rules

/-! ## What steps change -/

section Within

variable {R : Database → Database → Prop}

/-- Whatever steps change is within a relation, also when one of them fails. -/
def Within (R : Database → Database → Prop) (x : Work α) : Prop :=
  ∀ t, R t.database (x t).2.database

theorem Within.bind {x : Work α} {f : α → Work β} (frame : Frame R) (hx : x.Within R)
    (hf : ∀ a, (f a).Within R) : (x >>= f).Within R := by
  intro t
  have first := hx t
  rw [Attempt.bind_apply]
  rcases h : x t with ⟨e | a, t'⟩ <;> rw [h] at first
  · exact first
  · exact frame.trans first (hf a t')

/-- Steps that never touch the database are within every frame. -/
theorem within_of_same (frame : Frame R) {x : Work α} (h : ∀ t, (x t).2.database = t.database) :
    x.Within R := by
  intro t
  rw [h t]
  exact frame.refl _

theorem within_query (frame : Frame R) {q : Query α} (hq : q.Within R) : (query q).Within R := by
  intro t
  unfold query
  rcases h : q t.database with e | ⟨a, db⟩
  · exact frame.refl _
  · exact hq _ _ _ h

theorem within_stepwise (frame : Frame R) : Stepwise (Query.Within R) (Within R) where
  queries := Query.within_ledgerSteps frame
  bind := Within.bind frame
  pure _ := within_of_same frame fun _ => rfl
  throw _ := within_of_same frame fun _ => rfl
  tick := within_of_same frame fun t => by
    unfold tick
    split <;> rfl
  query := within_query frame

end Within

/-! ## Whole units -/

/-- A unit is refused at once, or its steps run on the database and are settled. -/
theorem attempt_cases (x : Work α) (course : Course) (db : Database) :
    (¬ db.pool.IsFree ∧ ∃ e, x.attempt course db = (.error (.refused e), db)) ∨
      x.attempt course db = settle db course.refusal (x ⟨db, course.cutoff⟩) := by
  have started : begin db =
      (Query.ofEngine db.pool.acquire >>= fun _ => Query.lockForWriting) db := rfl
  unfold attempt
  rcases acquired : db.pool.acquire with e | _ <;> rw [started, acquired]
  · exact .inl ⟨fun free => absurd (acquired.symm.trans free.1) (by simp), _, rfl⟩
  have locks : (Query.ofEngine (.ok ()) >>= fun _ => Query.lockForWriting) db =
      Query.ofEngine db.pool.lockForWriting db := rfl
  rcases locked : db.pool.lockForWriting with e | _ <;> rw [locks, locked]
  · exact .inl ⟨fun free => absurd (locked.symm.trans free.2) (by simp), _, rfl⟩
  · exact .inr rfl

/-- A unit that answers leads to the database that its steps lead to. -/
theorem attempt_ok {R : Database → Database → Prop} {x : Work α} (within : x.Within R)
    {course : Course} {a : α} {db' : Database} (h : x.attempt course db = (.ok a, db')) :
    R db db' := by
  rcases attempt_cases x course db with ⟨-, e, refused⟩ | settled
  · rw [refused] at h
    cases congrArg Prod.fst h
  rw [settled] at h
  have reached := within ⟨db, course.cutoff⟩
  rcases run : x ⟨db, course.cutoff⟩ with ⟨e | a', t⟩ <;> rw [run] at h reached
  · cases congrArg Prod.fst h
  · rcases refusal : course.refusal with _ | e <;> rw [refusal] at h
    · obtain rfl : t.database = db' := congrArg Prod.snd h
      exact reached
    · cases congrArg Prod.fst h

/-- Nothing but the tables and the supply was changed. -/
def Confined (db db' : Database) : Prop :=
  db' = { db with tables := db'.tables, supply := db'.supply }

theorem confined_frame : Frame Confined where
  refl _ := rfl
  trans {_ _ _} h h' := by
    unfold Confined at h h' ⊢
    rw [h', h]
  supply _ _ := rfl
  wallets _ _ := rfl
  entries _ _ := rfl

/-- A failed unit leaves the database as it was. -/
theorem attempt_error {x : Work α} (confined : x.Within Confined) {course : Course} {e : Failure}
    {db' : Database} (h : x.attempt course db = (.error e, db')) : db' = db := by
  rcases attempt_cases x course db with ⟨-, e', refused⟩ | settled
  · rw [refused] at h
    exact (congrArg Prod.snd h).symm
  rw [settled] at h
  -- undoing gives back the tables and the supply, and nothing else was touched
  have undone : (x ⟨db, course.cutoff⟩).2.rollBack db = db := by
    rw [Transaction.rollBack, show (x ⟨db, course.cutoff⟩).2.database = _ from
      confined ⟨db, course.cutoff⟩]
  rcases run : x ⟨db, course.cutoff⟩ with ⟨e' | a, t⟩ <;> rw [run] at h undone
  · exact (congrArg Prod.snd h).symm.trans undone
  · rcases refusal : course.refusal with _ | e' <;> rw [refusal] at h
    · cases congrArg Prod.fst h
    · exact (congrArg Prod.snd h).symm.trans undone

theorem meets_attempt {x : Work α} {course : Course} {Q : α → Database → Prop}
    (free : clear → db.pool.IsFree) (smooth : clear → course = .smooth)
    (h : x.Meets clear db Q P) :
    match x.attempt course db with
    | (.ok a, db') => Q a db'
    | (.error e, _) => (e.isRefusal → clear) → P e := by
  rcases attempt_cases x course db with ⟨hindered, e, refused⟩ | settled
  · rw [refused]
    exact fun clearly => absurd (free (clearly rfl)) hindered
  rw [settled]
  have run := h course.cutoff fun c => congrArg Course.cutoff (smooth c)
  rcases hx : x ⟨db, course.cutoff⟩ with ⟨e | a, t⟩ <;> rw [hx] at run
  · exact run
  · rcases refusal : course.refusal with _ | e
    · exact run.1
    · have hindered (c : clear) : False := by simp [smooth c, Course.smooth] at refusal
      exact fun clearly => (hindered (clearly rfl)).elim

end WalletLedger.Database.Work
