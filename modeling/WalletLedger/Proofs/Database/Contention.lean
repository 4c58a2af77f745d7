import WalletLedger.Proofs.Database.Calls

/-!
# Contention for the write lock

While another connection holds the write lock, whatever writes `Stalls`: a
statement at the lock, behind what it reads first, and a unit of work where it
begins. The engine reports a busy database, the repositories pass that on
whatever else they rename, and the ledger makes a conflict of it. So a database
that can be read and is locked answers every write with the conflict and is not
touched (`perform_contended`), on any course.
-/

namespace WalletLedger

namespace Database

open Memory Query

/-- The error of a write while another connection holds the write lock. -/
def contention : LedgerError := .serializationConflict "database is locked"

/-- A held lock is told from every constraint by its result code. -/
theorem ofEngine_locked :
    DatabaseError.ofEngine (.refused (some "5") "database is locked") =
      .busy "database is locked" := by
  decide +kernel

variable {α β : Type} {db : Database} {b : Books} {user id : String}

/-! ## Queries -/

/-- A query fails because the write lock is held. -/
def Query.Stalls (q : Query α) (db : Database) : Prop :=
  q.Meets True db (fun _ _ => False) (· = .busy "database is locked")

theorem Query.Stalls.eq {q : Query α} (h : q.Stalls db) :
    q db = .error (.busy "database is locked") := by
  unfold Query.Stalls Query.Meets at h
  rcases run : q db with e | ⟨a, db'⟩ <;> rw [run] at h
  · exact congrArg Except.error (h trivial)
  · exact h.elim

theorem Query.Stalls.bind {q : Query α} (h : q.Stalls db) (f : α → Query β) :
    (q >>= f).Stalls db :=
  meets_bind (Meets.mono h fun _ _ => False.elim)

/-- Only collisions are renamed. -/
theorem Query.Stalls.naming {q : Query α} (h : q.Stalls db) (value : String) :
    (naming value q).Stalls db := by
  unfold Query.Stalls Query.Meets Query.naming
  rw [h.eq]
  exact fun _ => rfl

theorem lockForWriting_stalls (locked : db.pool.isLocked = true) : lockForWriting.Stalls db := by
  have taken : db.pool.lockForWriting = .error (.refused (some "5") "database is locked") :=
    if_pos locked
  refine meets_bind (meets_get ?_)
  rw [taken]
  exact meets_throw fun _ => ofEngine_locked

section Writes

variable (h : Readable True db b) (locked : db.pool.isLocked = true)
include h locked

/-- A change of the catalog comes as far as the lock. -/
theorem catalog_stalls (next : List Article → Unit → Query α) :
    (acquire >>= fun _ => products >>= fun rows => lockForWriting >>= next rows).Stalls db := by
  obtain ⟨rows, there, -⟩ := h.keeps.products
  refine h.meets_acquire (meets_bind (meets_products there ?_))
  exact (lockForWriting_stalls locked).bind _

theorem createWallet_stalls : (createWallet user).Stalls db := by
  refine Query.Stalls.naming ?_ user
  exact h.meets_acquire (h.meets_wallets ((lockForWriting_stalls locked).bind _))

theorem begin_stalls : begin.Stalls db :=
  h.meets_acquire (lockForWriting_stalls locked)

end Writes

/-! ## Calls -/

/-- An operation fails with the conflict and leaves the database alone. -/
def IsContended (x : Attempt (StateM Database) α) (db : Database) : Prop :=
  x db = (.error (.refused contention), db)

theorem IsContended.map {x : Attempt (StateM Database) α} (h : IsContended x db) (f : α → β) :
    IsContended (f <$> x) db := by
  unfold IsContended
  rw [Attempt.map_apply, h]
  rfl

theorem answer_contended {q : Query α} (h : q.Stalls db) : IsContended (answer q) db := by
  unfold IsContended answer
  rw [h.eq]
  rfl

theorem makeWallet_contended (h : (createWallet user).Stalls db) :
    IsContended (makeWallet user) db := by
  unfold IsContended makeWallet
  rw [h.eq]
  rfl

/-- A unit of work does not begin, so that its course does not matter. -/
theorem attempt_contended (h : begin.Stalls db) (course : Course) (x : Work α) :
    IsContended (x.attempt course) db := by
  unfold IsContended Work.attempt
  rw [h.eq]
  rfl

/-- While another connection holds the write lock, every write is answered with
the conflict and changes nothing, whatever rows there are. -/
theorem perform_contended (h : Readable True db b) (locked : db.pool.isLocked = true)
    (course : Course) (limit : Option Duration) {call : StoreCall} (writes : ¬ call.isRead) :
    (storeOn course).perform limit call db = (.error (.refused contention), db) := by
  have begins := begin_stalls h locked
  cases call with
  | createWallet user => exact (makeWallet_contended (createWallet_stalls h locked)).map _
  | insertProduct p => exact (answer_contended (catalog_stalls h locked _)).map _
  | updateProduct id p => exact (answer_contended (catalog_stalls h locked _)).map _
  | deleteProduct id => exact (answer_contended (catalog_stalls h locked _)).map _
  | deposit user amount => exact (attempt_contended begins course _).map _
  | withdraw user amount => exact (attempt_contended begins course _).map _
  | purchase user id quantity => exact (attempt_contended begins course _).map _
  | _ => exact absurd rfl writes

end Database

end WalletLedger
