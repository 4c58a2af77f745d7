import WalletLedger.Proofs.Books.Movements
import WalletLedger.Proofs.Services.Moves

/-!
# Movements as the services carry them out

A movement with a flaw is refused before any store is asked (`serve_flawed`).
Without one it fails as the store does (`serve_failed`), or answers with the
entry that the store made and leaves the store as it left itself
(`serve_answered`).
-/

namespace WalletLedger

/-! ## The three requests as one -/

section Request

variable {m : Type → Type} [Monad m]

namespace Movement

/-- The rule on what moves. -/
def rule : Movement → Except LedgerError Unit
  | .deposit _ a | .withdraw _ a => Validation.amount a
  | .purchase _ _ q => Validation.quantity q

/-- The operation of a store that carries a movement out. -/
def operation (store : Store m) : Movement → Attempt m Entry
  | .deposit u a => store.deposit u a
  | .withdraw u a => store.withdraw u a
  | .purchase u p q => store.purchase u p q

theorem perform_call (store : Store m) (limit : Option Duration) (mv : Movement) :
    store.perform limit mv.call = Reply.entry <$> mv.operation store := by
  cases mv <;> rfl

theorem serve_request (s : Services m) (mv : Movement) :
    s.serve mv.request = Outcome.map .entry <$> (do
      Services.check (Validation.userId mv.user)
      Services.require mv.rule
      s.committed (← mv.operation s.store)) := by
  cases mv <;> rfl

theorem flaw?_of_blank {mv : Movement} {e : FieldError}
    (blank : Validation.userId mv.user = .error e) : mv.flaw? = some (.validation e) := by
  unfold Validation.userId at blank
  split at blank
  · next isBlank =>
    cases blank
    exact if_pos isBlank
  · cases blank

theorem flaw?_of_named {mv : Movement} (named : Validation.userId mv.user = .ok ()) :
    mv.flaw? = match mv.rule with
      | .error e => some e
      | .ok () => none := by
  unfold Validation.userId at named
  split at named
  · cases named
  · next notBlank =>
    unfold flaw?
    rw [if_neg notBlank]
    have nothing (n : Int) : n ≤ 0 ↔ ¬ 0 < n := Int.not_lt.symm
    cases mv with
    | purchase _ _ q =>
      by_cases above : 0 < q.toInt <;> simp [rule, Validation.quantity, nothing, above]
    | deposit _ a | withdraw _ a =>
      by_cases above : 0 < a.value <;>
        simp [rule, Validation.amount, Money.isPositive, nothing, above]

end Movement

end Request

/-! ## Carrying it out -/

section Serve

variable {S : Type} {s : Services (StateM (World S))} {mv : Movement} {w w' : World S}

theorem serve_flawed {e : LedgerError} (flawed : mv.flaw? = some e) :
    s.serve mv.request w = (.error (.refused e), w) := by
  rw [Movement.serve_request, Attempt.map_apply]
  rcases named : Validation.userId mv.user with blank | _
  · rw [Movement.flaw?_of_blank named] at flawed
    cases flawed
    rfl
  · rw [Movement.flaw?_of_named named] at flawed
    rcases ruled : mv.rule with broken | _ <;> rw [ruled] at flawed
    · cases flawed
      rfl
    · cases flawed

theorem serve_sound (sound : mv.flaw? = none) :
    s.serve mv.request w =
      (Outcome.map .entry <$> (mv.operation s.store >>= s.committed)) w := by
  rw [Movement.serve_request]
  rcases named : Validation.userId mv.user with blank | _
  · rw [Movement.flaw?_of_blank named] at sound
    cases sound
  · rw [Movement.flaw?_of_named named] at sound
    rcases ruled : mv.rule with broken | _ <;> rw [ruled] at sound
    · cases sound
    · rfl

theorem serve_failed (sound : mv.flaw? = none) {e : Failure}
    (failed : s.store.perform none mv.call w = (.error e, w')) :
    s.serve mv.request w = (.error e, w') := by
  rw [Movement.perform_call, Attempt.map_apply] at failed
  rw [serve_sound sound, Attempt.map_apply, Attempt.bind_apply]
  rcases run : mv.operation s.store w with ⟨e' | entry, w₁⟩ <;> rw [run] at failed <;> cases failed
  rfl

/-- What a store answers to a movement is an entry. -/
theorem exists_entry {store : Store (StateM (World S))} {limit : Option Duration} {reply : Reply}
    (answered : (store.perform limit mv.call w).1 = .ok reply) : ∃ e, reply = .entry e := by
  rw [Movement.perform_call, Attempt.map_apply] at answered
  rcases run : (mv.operation store w).1 with _ | e <;> rw [run] at answered <;> cases answered
  exact ⟨e, rfl⟩

/-- What the store answers is told, and the views that it changed are taken out of the cache. -/
theorem serve_committed (sound : mv.flaw? = none) {e : Entry}
    (answered : s.store.perform none mv.call w = (.ok (.entry e), w')) :
    s.serve mv.request w = (.ok (.created (.entry e)), (s.forget (Services.staleKeys e) w').2) := by
  rw [Movement.perform_call, Attempt.map_apply] at answered
  rw [serve_sound sound, Attempt.map_apply, Attempt.bind_apply]
  rcases run : mv.operation s.store w with ⟨e' | entry, w₁⟩ <;> rw [run] at answered <;>
    cases answered
  rfl

theorem serve_answered (aside : s.cache.Aside) (sound : mv.flaw? = none) {e : Entry}
    (answered : s.store.perform none mv.call w = (.ok (.entry e), w')) :
    (s.serve mv.request w).1 = .ok (.created (.entry e)) ∧
      (s.serve mv.request w).2.store = w'.store := by
  rw [serve_committed sound answered]
  exact ⟨rfl, forget_store aside (Services.staleKeys e) w'⟩

end Serve

end WalletLedger
