import WalletLedger.Proofs.Database.Atomicity
import WalletLedger.Proofs.Database.Stage

/-!
# What no call touches

A call of a database draws stamps and writes wallets, products and entries, and
what it changes is within every relation that allows that (`perform_within`). So
whatever it comes to, it changes nothing but the tables and the supply
(`perform_confined`): guards, checks and the pool are as before it.
-/

namespace WalletLedger.Database

open Query Work

variable {α β : Type} {user id : String}

/-! ## Queries -/

/-- A query changes nothing but the tables and the supply. -/
abbrev Query.Confined (q : Query α) : Prop := q.Within Work.Confined

/-- A frame that allows writes to the catalog as well. -/
structure OpenFrame (R : Database → Database → Prop) : Prop extends Frame R where
  products : ∀ db rows, R db { db with tables := { db.tables with products := some rows } }

theorem confined_openFrame : OpenFrame Work.Confined :=
  ⟨confined_frame, fun _ _ => rfl⟩

section Within

variable {R : Database → Database → Prop}

theorem Query.Within.naming {q : Query α} (h : q.Within R) (value : String) :
    (naming value q).Within R := by
  intro db a db' answered
  unfold Query.naming at answered
  split at answered
  · cases answered
  · exact h db a db' answered

variable (frame : OpenFrame R)
include frame

theorem within_openSteps : OpenSteps (Query.Within R) where
  toLedgerSteps := within_ledgerSteps frame.toFrame
  setProducts _ _ _ _ h := by cases h; exact frame.products _ _
  naming value _ hq := hq.naming value

end Within

theorem confined_openSteps : OpenSteps (Query.Within Work.Confined) :=
  within_openSteps confined_openFrame

theorem confined_stepwise :
    Work.Stepwise (Query.Within Work.Confined) (Work.Within Work.Confined) :=
  within_stepwise confined_frame

/-! ## Queries that only read -/

theorem reads_users : users.ReadsOnly := reads_get.bind fun _ => reads_stepwise.rowsOf _ _

theorem reads_walletByUser : (walletByUser user).ReadsOnly :=
  reads_stepwise.read reads_stepwise.wallets fun _ => reads_users.bind fun _ =>
    reads_stepwise.pure _

theorem reads_listWallets : listWallets.ReadsOnly :=
  reads_stepwise.read reads_stepwise.wallets fun _ => reads_users.bind fun _ =>
    reads_stepwise.pure _

/-! ## Calls -/

section Calls

variable {R : Database → Database → Prop} {db db' : Database}

/-- What is answered in other words was answered. -/
theorem map_ok {x : Attempt (StateM Database) α} {f : α → β} {b : β}
    (h : (f <$> x : Attempt (StateM Database) β) db = (.ok b, db')) :
    ∃ a, x db = (.ok a, db') := by
  rw [Attempt.map_apply] at h
  rcases run : x db with ⟨e | a, db₁⟩ <;> rw [run] at h
  · cases h
  · cases h
    exact ⟨a, rfl⟩

/-- An operation of a query answers what the query does. -/
theorem answer_ok {q : Query α} {a : α} (h : answer q db = (.ok a, db')) :
    q db = .ok (a, db') := by
  unfold answer at h
  rcases run : q db with e | ⟨b, db₁⟩ <;> rw [run] at h <;> cases h
  rfl

/-- Whatever an operation changes when it answers is within a relation. -/
def IsWithin (R : Database → Database → Prop) (x : Attempt (StateM Database) α) : Prop :=
  ∀ db a db', x db = (.ok a, db') → R db db'

theorem IsWithin.map {x : Attempt (StateM Database) α} (hx : IsWithin R x) (f : α → β) :
    IsWithin R (f <$> x) := by
  intro db b db' h
  obtain ⟨a, run⟩ := map_ok h
  exact hx db a db' run

theorem answer_within {q : Query α} (hq : q.Within R) : IsWithin R (answer q) :=
  fun db a db' h => hq db a db' (answer_ok h)

theorem read_within (frame : Frame R) {q : Query α} (reads : q.ReadsOnly)
    (limit : Option Duration) : IsWithin R (read limit q) := by
  intro db a db' h
  rcases read_eq_or_late limit q db with same | ⟨-, d, late⟩
  · exact answer_within (reads.within frame) db a db' (same.symm.trans h)
  · rw [late] at h
    cases h

theorem makeWallet_within (frame : OpenFrame R) (user : String) : IsWithin R (makeWallet user) := by
  intro db a db' h
  unfold makeWallet at h
  split at h
  · next wallet db₁ made =>
    cases h
    exact (within_openSteps frame).createWallet db _ _ made
  · cases h
  · cases h

/-- What a call changes when it is answered is within every relation that allows it to
draw stamps and to write wallets, products and entries. -/
theorem perform_within (frame : OpenFrame R) (course : Course) (limit : Option Duration)
    (call : StoreCall) : IsWithin R ((storeOn course).perform limit call) := by
  have unit {x : Work Entry} (hx : x.Within R) : IsWithin R (x.attempt course) :=
    fun _ _ _ h => attempt_ok hx h
  cases call with
  | walletByUser user => exact (read_within frame.toFrame reads_walletByUser limit).map _
  | createWallet user => exact (makeWallet_within frame user).map _
  | listWallets => exact (read_within frame.toFrame reads_listWallets limit).map _
  | listProducts => exact (read_within frame.toFrame reads_stepwise.listProducts limit).map _
  | productById id => exact (read_within frame.toFrame reads_stepwise.productById limit).map _
  | insertProduct p => exact (answer_within ((within_openSteps frame).insertProduct p)).map _
  | updateProduct id p => exact (answer_within ((within_openSteps frame).updateProduct p)).map _
  | deleteProduct id => exact (answer_within (within_openSteps frame).deleteProduct).map _
  | deposit user amount =>
    exact (unit ((within_stepwise frame.toFrame).deposit amount)).map _
  | withdraw user amount =>
    exact (unit ((within_stepwise frame.toFrame).withdraw amount)).map _
  | purchase user id quantity =>
    exact (unit (within_purchase frame.toFrame user
      (fun _ _ _ _ _ => frame.products _ _) quantity)).map _
  | history user => exact (read_within frame.toFrame reads_stepwise.history limit).map _
  | listEntries => exact (read_within frame.toFrame reads_stepwise.listEntries limit).map _

/-- Whatever a call comes to, it changes nothing but the tables and the supply. -/
theorem perform_confined (course : Course) (limit : Option Duration) (call : StoreCall)
    (db : Database) : Work.Confined db ((storeOn course).perform limit call db).2 := by
  rcases run : (storeOn course).perform limit call db with ⟨e | reply, db'⟩
  · obtain rfl := perform_atomic course limit call db e db' run
    exact confined_frame.refl db'
  · exact perform_within confined_openFrame course limit call db reply db' run

/-- No call changes the pool. -/
theorem perform_pool (course : Course) (limit : Option Duration) (call : StoreCall)
    (db : Database) : ((storeOn course).perform limit call db).2.pool = db.pool := by
  have confined : ((storeOn course).perform limit call db).2 = _ :=
    perform_confined course limit call db
  rw [confined]

end Calls

/-- What is not in the way before a call is not in the way after it. -/
theorem Stage.of_confined {clear : Prop} {db db' : Database} {b b' : Memory.Books}
    (h : Stage clear db b) (confined : Work.Confined db db') (keeps : Keeps db' b') :
    Stage clear db' b' := by
  refine ⟨keeps, ?_, ?_⟩
  · rw [show db' = _ from confined]
    exact h.unguarded
  · rw [show db' = _ from confined]
    exact h.free

end WalletLedger.Database
