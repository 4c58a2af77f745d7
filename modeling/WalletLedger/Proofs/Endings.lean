import WalletLedger.Routine.Basic

/-!
# How routines end

A routine that shares its world may be kept waiting by others. `Routine.Ends`
gives the answers and worlds in which it can end when nothing else happens to
the world: every turn is over in time, or its limit passes while the routine
waits for the lock or while it holds it. A routine that has the world to
itself ends in one of these ways (`Routine.ends_alone`), and one routine after
another ends as the second does where the first ended (`Ends.bind`, `Ends.of_bind`).
-/

namespace WalletLedger.Routine

variable {W α β : Type} {w w' : W}

/-- The ways in which a routine can end. -/
inductive Ends : Routine W α → W → α → W → Prop
  | done {a : α} {w : W} : Ends (.done a) w a w
  | now {effect : W → W} {next : W → Routine W α} {w w' : W} {a : α}
      (rest : Ends (next w) (effect w) a w') : Ends (.now effect next) w a w'
  | waited {t : Turn W} {expired : Routine W α} {next : W → Routine W α} {w w' : W} {a : α}
      (limited : t.limit.isSome) (rest : Ends expired w a w') : Ends (.turn t expired next) w a w'
  | overran {t : Turn W} {expired : Routine W α} {next : W → Routine W α} {w w' : W} {a : α}
      (limited : t.limit.isSome) (held : 0 < t.hold w) (rest : Ends expired (t.enter w) a w') :
      Ends (.turn t expired next) w a w'
  | served {t : Turn W} {expired : Routine W α} {next : W → Routine W α} {w w' : W} {a : α}
      (rest : Ends (next w) (t.commit w (t.enter w)) a w') : Ends (.turn t expired next) w a w'

theorem ends_alone (r : Routine W α) (w : W) : r.Ends w (r.alone w).1 (r.alone w).2 := by
  induction r generalizing w with
  | done a => exact .done
  | now effect next ih => exact .now (ih w (effect w))
  | turn t expired next ihe ih =>
    unfold alone
    by_cases quick : t.isQuick w
    · rw [if_pos quick]
      exact .served (ih w _)
    · rw [if_neg quick]
      rcases limit : t.limit with _ | n
      · simp [Turn.isQuick, limit] at quick
      · have late : n < t.hold w := by simpa [Turn.isQuick, limit] using quick
        exact .overran (by simp [limit]) (by omega) (ihe _)

/-! ## One after another -/

theorem Ends.bind {r : Routine W α} {f : α → Routine W β} {a : α} {b : β} {w₁ : W}
    (first : r.Ends w a w₁) (second : (f a).Ends w₁ b w') : (r.bind f).Ends w b w' := by
  induction first with
  | done => exact second
  | now _ ih => exact .now (ih second)
  | waited limited _ ih => exact .waited limited (ih second)
  | overran limited held _ ih => exact .overran limited held (ih second)
  | served _ ih => exact .served (ih second)

theorem Ends.of_bind {r : Routine W α} {f : α → Routine W β} {b : β}
    (h : (r.bind f).Ends w b w') : ∃ a w₁, r.Ends w a w₁ ∧ (f a).Ends w₁ b w' := by
  induction r generalizing w with
  | done a => exact ⟨a, w, .done, h⟩
  | now effect next ih =>
    cases h with
    | now rest =>
      obtain ⟨a, w₁, first, second⟩ := ih _ rest
      exact ⟨a, w₁, .now first, second⟩
  | turn t expired next ihe ih =>
    cases h with
    | waited limited rest =>
      obtain ⟨a, w₁, first, second⟩ := ihe rest
      exact ⟨a, w₁, .waited limited first, second⟩
    | overran limited held rest =>
      obtain ⟨a, w₁, first, second⟩ := ihe rest
      exact ⟨a, w₁, .overran limited held first, second⟩
    | served rest =>
      obtain ⟨a, w₁, first, second⟩ := ih _ rest
      exact ⟨a, w₁, .served first, second⟩

end WalletLedger.Routine
