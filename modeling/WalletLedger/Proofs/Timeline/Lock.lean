import WalletLedger.Routine.Timeline
import Mathlib.Data.List.Nodup
import Mathlib.Logic.Function.Basic

/-!
# The lock of a timeline

What is true of the lock at every moment (`Lock`): those who wait for it stand
in the queue once, its owner works or has not noticed yet that it is next, and
whoever works obtained it last. It is kept by joining the queue, leaving it,
obtaining the lock and releasing it (`Lock.join`, `Lock.leave`, `Lock.take`,
`Lock.release`).
-/

namespace WalletLedger

/-- How far a routine of one turn has come. -/
inductive Phase
  | coming
  | waiting
  | working
  | past
deriving DecidableEq

/-- How many times a routine can go on before it is over, at most. -/
def Phase.left : Phase → Nat
  | .coming => 3
  | .waiting => 2
  | .working => 1
  | .past => 0

variable {W α : Type}

/-- How far the routine of a slot has come. -/
def Slot.phase : Slot W α → Phase
  | .arriving _ _ => .coming
  | .queued _ _ _ _ => .waiting
  | .holding _ _ _ _ _ _ => .working
  | .finished _ _ => .past

namespace Timeline

/-- How far the routine of a number has come. -/
def phaseAt (slots : List (Slot W α)) (i : Nat) : Option Phase :=
  slots[i]?.map Slot.phase

theorem phaseAt_set {slots : List (Slot W α)} {i : Nat} (there : i < slots.length)
    (slot : Slot W α) :
    phaseAt (slots.set i slot) = Function.update (phaseAt slots) i slot.phase := by
  funext j
  unfold phaseAt
  by_cases same : j = i
  · subst same
    simp [there]
  · simp [same, Ne.symm same]

/-- The lock and how far everyone has come. -/
structure Lock (s : Shared W) (phase : Nat → Option Phase) : Prop where
  queue : ∀ i, i ∈ s.queue ↔ phase i = some .waiting ∧ s.owner ≠ some i
  queueNodup : s.queue.Nodup
  idle : s.owner = none → s.queue = []
  owner : ∀ i, s.owner = some i → phase i = some .waiting ∨ phase i = some .working
  worker : ∀ i, phase i = some .working → s.owner = some i ∧ ∃ earlier, s.served = earlier ++ [i]
  servedNodup : s.served.Nodup
  served : ∀ i ∈ s.served, phase i = some .working ∨ phase i = some .past

end Timeline

/-- The lock is obtained and held. -/
def Shared.take (s : Shared W) (self : Nat) : Shared W :=
  { s.serve self with owner := some self }

/-- Whether a routine that has come so far can obtain the lock. -/
def Shared.IsOpenTo (s : Shared W) (self : Nat) (phase : Phase) : Prop :=
  phase = .coming ∧ s.owner = none ∨ phase = .waiting ∧ s.owner = some self

namespace Timeline.Lock

variable {s : Shared W} {phase : Nat → Option Phase} {i : Nat}

theorem withWorld (h : Lock s phase) (world : W) : Lock { s with world } phase :=
  ⟨h.queue, h.queueNodup, h.idle, h.owner, h.worker, h.servedNodup, h.served⟩

theorem withClock (h : Lock s phase) (clock : Nat) : Lock { s with clock } phase :=
  ⟨h.queue, h.queueNodup, h.idle, h.owner, h.worker, h.servedNodup, h.served⟩

/-- Who has not come to the lock or waits for it was not served. -/
theorem not_served (h : Lock s phase) (early : phase i = some .coming ∨ phase i = some .waiting) :
    i ∉ s.served := by
  intro served
  rcases h.served i served with e | e <;> rcases early with e' | e' <;> simp [e] at e'

theorem not_owner (h : Lock s phase) (coming : phase i = some .coming) : s.owner ≠ some i := by
  intro own
  rcases h.owner i own with e | e <;> simp [coming] at e

theorem not_queued (h : Lock s phase) (other : phase i ≠ some .waiting) : i ∉ s.queue :=
  fun mem => other ((h.queue i).mp mem).1

theorem join (h : Lock s phase) (coming : phase i = some .coming) (taken : s.owner.isSome) :
    Lock { s with queue := s.queue ++ [i] } (Function.update phase i (some .waiting)) := by
  have apart := h.not_owner coming
  have fresh : i ∉ s.queue := h.not_queued (by simp [coming])
  have unserved := h.not_served (.inl coming)
  refine ⟨fun j => ?_, ?_, fun free => ?_, fun j own => ?_, fun j works => ?_, h.servedNodup,
    fun j served => ?_⟩
  · have queue := h.queue j
    by_cases same : j = i
    · simp [same, apart]
    · simp [same, queue]
  · exact List.Nodup.append h.queueNodup (List.nodup_singleton i) (by simpa using fresh)
  · simp only at free
    simp [free] at taken
  · have owner := h.owner j own
    have other : j ≠ i := fun e => apart (e ▸ own)
    simpa [other] using owner
  · have other : j ≠ i := fun e => by simp [e] at works
    exact h.worker j (by simpa [other] using works)
  · have other : j ≠ i := fun e => unserved (e ▸ served)
    simpa [other] using h.served j served

theorem leave (h : Lock s phase) (early : phase i = some .coming ∨ phase i = some .waiting)
    (apart : s.owner ≠ some i) :
    Lock { s with queue := s.queue.filter (· ≠ i) } (Function.update phase i (some .past)) := by
  have unserved := h.not_served early
  refine ⟨fun j => ?_, h.queueNodup.filter _, fun free => ?_, fun j own => ?_, fun j works => ?_,
    h.servedNodup, fun j served => ?_⟩
  · have queue := h.queue j
    by_cases same : j = i
    · simp [same]
    · simp [same, queue]
  · show s.queue.filter _ = []
    rw [h.idle free, List.filter_nil]
  · have owner := h.owner j own
    have other : j ≠ i := fun e => apart (e ▸ own)
    simpa [other] using owner
  · have other : j ≠ i := fun e => by simp [e] at works
    exact h.worker j (by simpa [other] using works)
  · have other : j ≠ i := fun e => unserved (e ▸ served)
    simpa [other] using h.served j served

theorem take (h : Lock s phase) {p : Phase} (there : phase i = some p) (isOpen : s.IsOpenTo i p) :
    Lock (s.take i) (Function.update phase i (some .working)) := by
  have early : phase i = some .coming ∨ phase i = some .waiting := by
    rcases isOpen with ⟨rfl, -⟩ | ⟨rfl, -⟩
    · exact .inl there
    · exact .inr there
  have unserved := h.not_served early
  have nobody (j : Nat) (other : j ≠ i) : s.owner ≠ some j := by
    rcases isOpen with ⟨-, free⟩ | ⟨-, own⟩
    · simp [free]
    · simp [own, Ne.symm other]
  refine ⟨fun j => ?_, h.queueNodup, fun free => ?_, fun j own => ?_, fun j works => ?_, ?_,
    fun j served => ?_⟩
  · show j ∈ s.queue ↔ _ ∧ some i ≠ some j
    have queue := h.queue j
    by_cases same : j = i
    · subst same
      have absent : j ∉ s.queue := by
        rcases isOpen with ⟨-, free⟩ | ⟨-, own⟩
        · simp [h.idle free]
        · exact fun mem => (queue.mp mem).2 own
      simp [absent]
    · simp [same, Ne.symm same, queue, nobody j same]
  · cases free
  · obtain rfl : i = j := Option.some.inj own
    simp
  · by_cases same : j = i
    · exact ⟨congrArg some same.symm, s.served, same ▸ rfl⟩
    · exact absurd (h.worker j (by simpa [same] using works)).1 (nobody j same)
  · exact List.Nodup.append h.servedNodup (List.nodup_singleton i) (by simpa using unserved)
  · by_cases same : j = i
    · simp [same]
    · have mem : j ∈ s.served := by simpa [Shared.take, Shared.serve, same] using served
      simpa [same] using h.served j mem

theorem release (h : Lock s phase) (works : phase i = some .working) :
    Lock s.release (Function.update phase i (some .past)) := by
  obtain ⟨own, -⟩ := h.worker i works
  have resting (j : Nat) : Function.update phase i (some .past) j ≠ some .working := by
    by_cases same : j = i
    · simp [same]
    · intro works'
      have own' := (h.worker j (by simpa [same] using works')).1
      simp [own, Ne.symm same] at own'
  have waits (j : Nat) : j ∈ s.queue ↔ phase j = some .waiting := by
    rw [h.queue j, own]
    refine ⟨And.left, fun waiting => ⟨waiting, fun e => ?_⟩⟩
    cases e
    simp [works] at waiting
  have absent : i ∉ s.queue := h.not_queued (by simp [works])
  have served (j : Nat) (mem : j ∈ s.served) :
      Function.update phase i (some .past) j = some .working ∨
        Function.update phase i (some .past) j = some .past := by
    by_cases same : j = i
    · simp [same]
    · simpa [same] using h.served j mem
  unfold Shared.release
  rcases queue : s.queue with _ | ⟨next, rest⟩
  · refine ⟨fun j => ?_, List.nodup_nil, fun _ => rfl, nofun,
      fun j works' => absurd works' (resting j), h.servedNodup, served⟩
    have waits := waits j
    by_cases same : j = i <;> simp [queue, same] at waits ⊢
    exact waits
  · have nodup := queue ▸ h.queueNodup
    have first : next ≠ i := fun e => absent (by simp [queue, e])
    refine ⟨fun j => ?_, nodup.of_cons, nofun, fun j own' => ?_,
      fun j works' => absurd works' (resting j), h.servedNodup, served⟩
    · have waits := waits j
      rw [queue, List.mem_cons] at waits
      by_cases same : j = i
      · subst same
        simpa using fun mem => absent (by simp [queue, mem])
      · by_cases chosen : j = next
        · subst chosen
          simpa using nodup.notMem
        · simpa [same, chosen, Ne.symm chosen] using waits
    · obtain rfl : next = j := Option.some.inj own'
      have waiting := (waits next).mp (by simp [queue])
      simp [first, waiting]

end Timeline.Lock

end WalletLedger
