import WalletLedger.Database.Store
import WalletLedger.Proofs.Database.Transactions
import WalletLedger.Store.Call

/-!
# Failed calls of a database

A query that fails has changed nothing. The steps of a unit of work may fail
after others were carried out. Each step stays within every relation that
allows what it writes (`Work.within_stepwise`, `Work.within_purchase`); the
tables and the supply are all that it writes, and both are rolled back. So a
call that fails leaves the database as it was (`perform_atomic`).
-/

namespace WalletLedger.Database

open Query

namespace Work

section Within

variable {R : Database → Database → Prop}

/-- Writes to products are within a relation that allows to set the stock of the rows selected. -/
theorem within_writeStock (frame : Frame R) {id : String} {stock : Int64}
    (allowed : ∀ db rows time, db.tables.products = some rows → R db
      { db with tables := { db.tables with products := some (rows.map fun a =>
        if a.product.id == id then { a with product := { a.product with stock, updatedAt := time } }
        else a) } }) :
    (writeStock id stock).Within R := by
  refine (within_stepwise frame).touches (fun now => within_of_meets fun db => ?_) _
  refine Query.meets_bind (meets_of_products fun rows there => Query.meets_bind ?_)
  have same : { db with tables := { db.tables with products := some rows } } = db := by
    rw [← there]
  refine meets_updateRow False.elim False.elim ?_ ?_ ?_
  · intro _
    refine Query.meets_bind (meets_modify (Query.meets_pure ?_))
    rw [same]
    exact frame.refl db
  · exact fun _ _ => Query.meets_bind (meets_modify (Query.meets_pure (allowed db rows now there)))
  · intro _
    refine Query.meets_bind (meets_modify (Query.meets_pure ?_))
    rw [same]
    exact frame.refl db

theorem within_purchase (frame : Frame R) (user : String) {id : String}
    (allowed : ∀ db rows stock time, db.tables.products = some rows → R db
      { db with tables := { db.tables with products := some (rows.map fun a =>
        if a.product.id == id then { a with product := { a.product with stock, updatedAt := time } }
        else a) } }) (quantity : Int64) :
    (purchase user id quantity).Within R :=
  (within_stepwise frame).purchase (fun _ => within_writeStock frame fun db rows =>
    allowed db rows _) quantity

end Within

end Work

/-! ## Calls -/

/-- An operation that fails leaves the database as it was. -/
def Atomic {α : Type} (x : Attempt (StateM Database) α) : Prop :=
  ∀ db e db', x db = (.error e, db') → db' = db

section Atomic

variable {α β : Type}

theorem Atomic.map {x : Attempt (StateM Database) α} (f : α → β) (hx : Atomic x) :
    Atomic (f <$> x) := by
  intro db e db' h
  rw [Attempt.map_apply] at h
  rcases hy : x db with ⟨e' | a, db₁⟩ <;> rw [hy] at h
  · obtain rfl : db₁ = db' := congrArg Prod.snd h
    exact hx _ _ _ hy
  · cases congrArg Prod.fst h

theorem answer_atomic (q : Query α) : Atomic (answer q) := by
  intro db e db' h
  unfold answer at h
  rcases hq : q db with e' | ⟨a, db₁⟩ <;> rw [hq] at h
  · exact (congrArg Prod.snd h).symm
  · cases congrArg Prod.fst h

theorem read_atomic (limit : Option Duration) (q : Query α) : Atomic (read limit q) := by
  intro db e db' h
  rcases read_eq_or_late limit q db with same | ⟨-, d, late⟩
  · exact answer_atomic q db e db' (same.symm.trans h)
  · exact congrArg Prod.snd (h.symm.trans late)

theorem makeWallet_atomic (user : String) : Atomic (makeWallet user) := by
  intro db e db' h
  unfold makeWallet at h
  split at h
  · cases congrArg Prod.fst h
  · exact (congrArg Prod.snd h).symm
  · exact (congrArg Prod.snd h).symm

theorem attempt_atomic {x : Work α} (confined : x.Within Work.Confined) (course : Course) :
    Atomic (x.attempt course) :=
  fun _ _ _ h => Work.attempt_error confined h

end Atomic

theorem perform_atomic (course : Course) (limit : Option Duration) (call : StoreCall) :
    Atomic ((storeOn course).perform limit call) := by
  cases call with
  | createWallet user => exact (makeWallet_atomic user).map _
  | insertProduct p => exact (answer_atomic _).map _
  | updateProduct id p => exact (answer_atomic _).map _
  | deleteProduct id => exact (answer_atomic _).map _
  | deposit user amount =>
    exact (attempt_atomic ((Work.within_stepwise Work.confined_frame).deposit amount) _).map _
  | withdraw user amount =>
    exact (attempt_atomic ((Work.within_stepwise Work.confined_frame).withdraw amount) _).map _
  | purchase user id quantity =>
    refine (attempt_atomic (Work.within_purchase Work.confined_frame user ?_ quantity) _).map _
    exact fun _ _ _ _ _ => rfl
  | _ => exact (read_atomic _ _).map _

end WalletLedger.Database
