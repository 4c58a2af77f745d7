import WalletLedger.Store.Basic
import WalletLedger.Routine.Basic

/-!
# Interleavings

Routines that share a world go on in any order, step by step, and other things
may happen to the world in between (`Weave`). What every step keeps holds
after every weave (`Weave.keeps`). A computation that `IsStep` is one step,
whatever follows it.
-/

namespace WalletLedger

namespace Routine

variable {W α β γ : Type}

/-- The next step of a routine that nobody keeps waiting: what is left of it,
and the world after the step. -/
def step? : Routine W α → W → Option (Routine W α × W)
  | .done _, _ => none
  | .now effect next, w => some (next w, effect w)
  | .turn t _ next, w => some (next w, t.commit w (t.enter w))

theorem bind_assoc (r : Routine W α) (f : α → Routine W β) (g : β → Routine W γ) :
    (r.bind f).bind g = r.bind fun a => (f a).bind g := by
  induction r with
  | done a => rfl
  | now effect next ih => simp only [bind, ih]
  | turn t expired next ihe ih => simp only [bind, ih, ihe]

/-- A routine is one step, with an answer for what follows it. -/
def IsStep (x : Routine W α) (act : StateM W α) : Prop :=
  ∀ (β : Type) (f : α → Routine W β) (w : W), (x.bind f).step? w = some (f (act w).1, (act w).2)

theorem isStep_ofState (x : StateM W α) : IsStep (ofState α x) x :=
  fun _ _ _ => rfl

theorem isStep_turn (t : Turn W) (expired : α) (answer : W → α) :
    IsStep (.turn t (.done expired) fun w => .done (answer w))
      fun w => (answer w, t.commit w (t.enter w)) :=
  fun _ _ _ => rfl

theorem IsStep.map {x : Routine W α} {act : StateM W α} (h : IsStep x act) (f : α → β) :
    IsStep (x.bind fun a => .done (f a)) fun w => (f (act w).1, (act w).2) := by
  intro γ g w
  rw [bind_assoc]
  exact h γ _ w

/-- An attempt of one step, and what goes on with its answer. -/
theorem IsStep.attempt_bind {x : Attempt (Routine W) α} {act : StateM W (Except Failure α)}
    (h : IsStep x act) (f : α → Attempt (Routine W) β) (w : W) :
    step? (x >>= f : Attempt (Routine W) β) w =
      some (match (act w).1 with
        | .ok a => f a
        | .error e => Routine.done (.error e), (act w).2) := by
  refine (h _ _ w).trans ?_
  rcases (act w).1 with e | a <;> rfl

theorem IsStep.lift_bind {x : Routine W α} {act : StateM W α} (h : IsStep x act)
    (f : α → Attempt (Routine W) β) (w : W) :
    step? ((liftM x : Attempt (Routine W) α) >>= f : Attempt (Routine W) β) w =
      some (f (act w).1, (act w).2) :=
  (h.map Except.ok).attempt_bind f w

end Routine

/-- The interleavings of routines: each goes on whenever it likes, and what
`happens` in between is up to the world. -/
inductive Weave {W α : Type} (happens : W → W → Prop) (routines : List (Routine W α)) (start : W) :
    List (Routine W α) → W → Prop
  | start : Weave happens routines start routines start
  | step {rs : List (Routine W α)} {w w' : W} {i : Nat} {r r' : Routine W α}
      (earlier : Weave happens routines start rs w) (there : rs[i]? = some r)
      (taken : r.step? w = some (r', w')) : Weave happens routines start (rs.set i r') w'
  | other {rs : List (Routine W α)} {w w' : W} (earlier : Weave happens routines start rs w)
      (happened : happens w w') : Weave happens routines start rs w'

namespace Weave

variable {W α : Type} {happens : W → W → Prop} {routines rs : List (Routine W α)} {start w : W}

/-- What every step keeps, and everything that happens, holds after every weave. -/
theorem keeps {P : List (Routine W α) → W → Prop} (first : P routines start)
    (step : ∀ rs w i r r' w', P rs w → rs[i]? = some r → r.step? w = some (r', w') →
      P (rs.set i r') w')
    (other : ∀ rs w w', P rs w → happens w w' → P rs w')
    (weave : Weave happens routines start rs w) : P rs w := by
  induction weave with
  | start => exact first
  | step _ there taken ih => exact step _ _ _ _ _ _ ih there taken
  | other _ happened ih => exact other _ _ _ ih happened

end Weave

end WalletLedger
