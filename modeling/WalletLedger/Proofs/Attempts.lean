import WalletLedger.Store.Basic

/-!
# Attempts one after another

An attempt over a state is a function of the state: what follows it goes on
with its answer and the state after it, or with its failure.
-/

namespace WalletLedger

/-- Whether a failure is a refusal. -/
def Failure.isRefusal : Failure → Bool
  | .refused _ => true
  | .aborted _ => false

namespace Attempt

variable {σ α β : Type}

theorem lift_apply (x : StateM σ α) (s : σ) :
    (liftM x : Attempt (StateM σ) α) s = (.ok (x s).1, (x s).2) := rfl

theorem bind_apply (x : Attempt (StateM σ) α) (f : α → Attempt (StateM σ) β) (s : σ) :
    (x >>= f) s =
      match x s with
      | (.ok a, s) => f a s
      | (.error e, s) => (.error e, s) := by
  simp only [bind, ExceptT.bind, ExceptT.mk, StateT.bind, ExceptT.bindCont]
  rcases x s with ⟨_ | _, _⟩ <;> rfl

theorem map_apply (f : α → β) (x : Attempt (StateM σ) α) (s : σ) :
    (f <$> x) s = ((x s).1.map f, (x s).2) := by
  simp only [Functor.map, ExceptT.map, ExceptT.mk, bind, StateT.bind]
  rcases x s with ⟨_ | _, _⟩ <;> rfl

end Attempt

end WalletLedger
