import WalletLedger.Proofs.Database.Atomicity
import WalletLedger.Proofs.Memory.Store

/-!
# Failed calls

A call of a store that does not answer leaves no trace, whatever stopped it and
however far it had come (`failed_call_leaves_no_trace`). The memory store works
on a copy and drops it, the database rolls back; only an injected fault that
was raised is no longer armed.
-/

namespace WalletLedger

open Memory Database

/-- A failed call leaves wallets, products, identity records, entries and the
supply of stamps as they were, in every state, for every argument and whether
the store is kept waiting, is cut off between two statements, refuses the call
or its commit, or stops at an overflow. In memory an injected fault that was raised is
disarmed; in a database nothing changes at all. -/
theorem failed_call_leaves_no_trace :
    (∀ (pace : Pace) (limit : Option Duration) (call : StoreCall) (w w' : World Memory)
      (e : Failure), ((pacedStore pace).perform limit call).Ends w (.error e) w' →
      w' = w ∨ ∃ p, w.store.fault = some p ∧ e = p.failure ∧ w' = disarmed w) ∧
    ∀ (course : Course) (limit : Option Duration) (call : StoreCall) (db db' : Database)
      (e : Failure), (storeOn course).perform limit call db = (.error e, db') → db' = db := by
  refine ⟨fun pace limit call w w' e ends => ?_, fun course limit call db db' e failed => ?_⟩
  · cases perform_ends ends with
    | late => exact .inl rfl
    | faulted armed => exact .inr ⟨_, armed, rfl, rfl⟩
    | refused => exact .inl rfl
  · exact perform_atomic course limit call db e db' failed

/-- Books of one wallet and one product. -/
def cornerShop : Books where
  wallets := [⟨"w", "ada", ⟨1000⟩, ⟨0, 0⟩, ⟨0, 0⟩, none⟩]
  articles := [⟨⟨"p", "Tea", "", ⟨250⟩, 3, ⟨0, 1⟩, ⟨0, 1⟩⟩, false⟩]
  entries := []
  users := []
  supply := ⟨.counting, 2, 2⟩

/-- A database of these rows, with a guard that refuses to write a stock. -/
def guardedShop : Database where
  tables := ⟨some [], some cornerShop.wallets, some cornerShop.articles, some [], some [1]⟩
  supply := cornerShop.supply
  guards := [⟨.stockUpdate, true⟩]
  enforced := true
  pool := ⟨4, ⟨0⟩, true, false⟩

/-- A purchase that fails at the stock, after the balance was written, in either store. -/
theorem failed_purchase_leaves_no_trace :
    (∃ w', ((pacedStore .unlimited).perform none (.purchase "ada" "p" 2)).Ends
        ⟨⟨cornerShop, some .stockUpdate⟩, .empty⟩ (.error (FaultPoint.failure .stockUpdate)) w' ∧
      (w' = ⟨⟨cornerShop, some .stockUpdate⟩, .empty⟩ ∨ ∃ p, some FaultPoint.stockUpdate = some p ∧
        FaultPoint.failure .stockUpdate = p.failure ∧ w' = ⟨⟨cornerShop, none⟩, .empty⟩)) ∧
    ∃ e db', (storeOn .smooth).perform none (.purchase "ada" "p" 2) guardedShop = (.error e, db') ∧
      db' = guardedShop := by
  have ends := Routine.ends_alone ((pacedStore .unlimited).perform none (.purchase "ada" "p" 2))
    ⟨⟨cornerShop, some .stockUpdate⟩, .empty⟩
  have failed : (storeOn .smooth).perform none (.purchase "ada" "p" 2) guardedShop =
      (.error (.refused (.ofDatabase (.ofRefusal (some "1811") "simulated stock fault"))),
        guardedShop) := rfl
  refine ⟨⟨_, ends, ?_⟩, ⟨_, _, failed, ?_⟩⟩
  · exact failed_call_leaves_no_trace.1 _ _ _ _ _ _ ends
  · exact failed_call_leaves_no_trace.2 _ _ _ _ _ _ failed

end WalletLedger
