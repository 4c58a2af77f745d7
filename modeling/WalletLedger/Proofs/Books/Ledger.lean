import WalletLedger.Proofs.Books.Movements

/-!
# The ledger as a log of answers

An entry is returned once, by the movement that committed it, and it stays as it
was returned. So the entries of books are those that the answered calls of the
past returned, in order (`committed`), when the books held none at first: a step
adds what its own answer carries, and nothing else (`Step.entries_eq`).
-/

namespace WalletLedger

/-- A call that was answered, with its answer. -/
structure Answered where
  call : StoreCall
  reply : Reply
deriving DecidableEq, Repr

/-- The entry that a deposit, a withdrawal or a purchase returned. -/
def Answered.entry? : Answered → Option Entry
  | ⟨.deposit _ _, .entry e⟩ | ⟨.withdraw _ _, .entry e⟩ | ⟨.purchase _ _ _, .entry e⟩ => some e
  | _ => none

/-- The entries that the answered calls of a past returned, oldest first. -/
def committed (past : List Answered) : List Entry :=
  past.filterMap Answered.entry?

theorem committed_concat (past : List Answered) (a : Answered) :
    committed (past ++ [a]) = committed past ++ a.entry?.toList := by
  unfold committed
  rw [List.filterMap_append]
  rcases returned : a.entry? with _ | e <;> simp [returned]

/-- Only movements return entries. -/
theorem Answered.entry?_of_other {call : StoreCall} (other : ∀ m : Movement, call ≠ m.call)
    (reply : Reply) : Answered.entry? ⟨call, reply⟩ = none := by
  cases call with
  | deposit user amount => exact absurd rfl (other (.deposit user amount))
  | withdraw user amount => exact absurd rfl (other (.withdraw user amount))
  | purchase user id quantity => exact absurd rfl (other (.purchase user id quantity))
  | _ => rfl

namespace Memory.Books

variable {b b' : Books} {call : StoreCall} {reply : Reply}

theorem Step.entries_eq (h : Step b call reply b') :
    b'.entries = b.entries ++ (Answered.entry? ⟨call, reply⟩).toList := by
  cases h with
  | read reads =>
    have returned : Answered.entry? ⟨call, b.answer call⟩ = none := by
      cases call <;> rfl
    rw [returned]
    exact (List.append_nil _).symm
  | deposit => rfl
  | withdraw => rfl
  | purchase => rfl
  | _ => exact (List.append_nil _).symm

/-- A read is answered from the books. -/
theorem Step.of_read (h : Step b call reply b') (reads : call.isRead) : reply = b.answer call := by
  cases h with
  | read => rfl
  | _ => cases reads

/-- A movement is answered by the entry that it committed. -/
theorem Step.returned {m : Movement} (h : Step b m.call reply b') :
    ∃ e, reply = .entry e ∧ b'.entries = b.entries ++ [e] := by
  cases m <;> cases h with
  | read reads => cases reads
  | _ => exact ⟨_, rfl, rfl⟩

/-- What an ended call may do to the ledger: a movement that is answered adds the
entry that it returns, and nothing else changes it. -/
def Appends (call : StoreCall) (r : Except Failure Reply) (es es' : List Entry) : Prop :=
  (∃ (m : Movement) (e : Entry), call = m.call ∧ r = .ok (.entry e) ∧ es' = es ++ [e]) ∨
    (∀ (m : Movement) (reply : Reply), call = m.call → r ≠ .ok reply) ∧ es' = es

theorem Step.appends (h : Step b call reply b') :
    Appends call (.ok reply) b.entries b'.entries := by
  by_cases moves : ∃ m : Movement, call = m.call
  · obtain ⟨m, rfl⟩ := moves
    obtain ⟨e, rfl, added⟩ := h.returned
    exact .inl ⟨m, e, rfl, rfl, added⟩
  · have other (m : Movement) : call ≠ m.call := fun same => moves ⟨m, same⟩
    refine .inr ⟨fun m _ same => absurd same (other m), ?_⟩
    rw [h.entries_eq, Answered.entry?_of_other other]
    exact List.append_nil _

/-- Every entry is held by one wallet. -/
theorem WellFormed.holder_unique (h : b.WellFormed) {e : Entry} (mem : e ∈ b.entries) :
    ∃! w, w ∈ b.wallets ∧ w.id = e.walletId := by
  obtain ⟨w, there, same⟩ := List.mem_map.mp (h.holders e mem)
  exact ⟨w, ⟨there, same⟩, fun v ⟨hv, own⟩ => h.wallet_unique hv there (own.trans same.symm)⟩

end Memory.Books

end WalletLedger
