import WalletLedger.Proofs.Chronicle

/-!
# The ledger is append-only

In every state that a store comes to, its ledger is what the answered movements
returned, in the order in which they were carried out, and both views of it are
read from there (`ledger_is_append_only`). Entries are neither taken away nor
altered, whatever fails and whatever becomes of products and users.
-/

namespace WalletLedger

open Memory

namespace Conduct

variable {W M : Type}

/-- However a view of the ledger ends in a state, it answers these entries or fails for want
of time or of a connection; and when reads get through it answers them. -/
def Views (c : Conduct W M) (w : W) (view : StoreCall) (es : List Entry) : Prop :=
  (∀ manner r w', c.ends manner view w r w' →
    r = .ok (.entries es) ∨ ∃ e, r = .error e ∧ e.IsUnavailable) ∧
  (c.available w → ∀ manner, (c.alone manner view w).1 = .ok (.entries es))

/-- The ledger of a state with these books, to which calls were answered that are past. -/
structure LedgerKept (c : Conduct W M) (past : List Answered) (w : W) (b : Books) : Prop where
  /-- The entries are those that were returned. -/
  recorded : b.entries = committed past
  /-- Every entry is held by one wallet. -/
  held : ∀ e ∈ b.entries, ∃! v, v ∈ b.wallets ∧ v.id = e.walletId
  /-- A movement that is answered adds the entry that it returns, and no other call changes any. -/
  appends : ∀ manner call r w', c.ends manner call w r w' →
    ∃ b', c.books? w' = some b' ∧ Books.Appends call r b.entries b'.entries
  /-- All entries are listed, newest first. -/
  lists : c.Views w .listEntries (committed past).reverse
  /-- The history of a user lists those of them that the wallet of the user holds. -/
  history : ∀ user, c.Views w (.history user) ((committed past).reverse.filter fun e =>
    b.wallets.any fun v => v.id == e.walletId && v.userId == user)

namespace Follows

variable {c : Conduct W M} {holds : W → Books → Prop} {start w : W} {b : Books}

theorem views (follows : c.Follows holds) (held : holds w b) (wf : b.WellFormed) {view : StoreCall}
    (reads : view.isRead) {es : List Entry} (answer : b.answer view = .entries es) :
    c.Views w view es := by
  have answers : c.Answers w view (b.answer view) := follows.answers held wf reads
  rw [answer] at answers
  exact answers

/-- However a call ends, the ledger after it shows no more than the call did. -/
theorem appends (follows : c.Follows holds) (held : holds w b) (wf : b.WellFormed) {manner : M}
    {call : StoreCall} {r : Except Failure Reply} {w' : W} (ended : c.ends manner call w r w') :
    ∃ b', c.books? w' = some b' ∧ Books.Appends call r b.entries b'.entries := by
  rcases r with e | reply
  · obtain ⟨_, _, -, shown⟩ := follows.shown (follows.failed held wf ended).1
    exact ⟨_, shown, .inr ⟨fun _ _ _ => nofun, rfl⟩⟩
  · obtain ⟨b', step, held'⟩ := follows.answered held wf ended
    obtain ⟨_, _, -, shown⟩ := follows.shown held'
    exact ⟨_, shown, step.appends⟩

theorem ledgerKept (follows : c.Follows holds) (held : holds start b) (wf : b.WellFormed)
    (empty : b.entries = []) {past : List Answered} (run : Chronicle c start past w) :
    ∃ b, c.books? w = some b ∧ c.LedgerKept past w b := by
  obtain ⟨b, held, wf, recorded⟩ := run.recorded follows held wf empty
  obtain ⟨articles, users, -, shown⟩ := follows.shown held
  refine ⟨_, shown, recorded, fun e mem => wf.holder_unique mem,
    fun manner call r w' ended => follows.appends held wf ended, ?_, fun user => ?_⟩
  · exact follows.views held wf rfl (by rw [← recorded]; rfl)
  · refine follows.views held wf rfl ?_
    rw [← recorded]
    exact congrArg Reply.entries (Database.history_eq wf)

end Follows

end Conduct

/-- From a memory store without wallets, products and entries, and from a database without
them, every run leads to a state that keeps the ledger: the entries are those that the
answered movements returned, each held by one wallet, and the views list them newest first. -/
theorem ledger_is_append_only :
    (∀ (users : List User) (supply : Supply) (fault : Option FaultPoint) (shelf : Shelf)
      (past : List Answered) (w : World Memory),
      Chronicle Memory.conduct ⟨⟨.opening users supply, fault⟩, shelf⟩ past w →
      ∃ b, Memory.conduct.books? w = some b ∧ Memory.conduct.LedgerKept past w b) ∧
    ∀ (rows : List Database.UserRow) (supply : Supply) (guards : List Database.Guard)
      (enforced : Bool) (pool : Database.Pool) (past : List Answered) (db : Database),
      Chronicle Database.conduct (.opening rows supply guards enforced pool) past db →
      ∃ b, Database.conduct.books? db = some b ∧ Database.conduct.LedgerKept past db b := by
  refine ⟨fun users supply fault shelf past w run => ?_,
    fun rows supply guards enforced pool past db run => ?_⟩
  · exact Memory.follows.ledgerKept (b := .opening users supply) rfl
      (Books.opening_wellFormed users supply) rfl run
  · exact Database.follows.ledgerKept (Database.opening_keeps rows supply guards enforced pool)
      (Books.opening_wellFormed _ supply.inOrder) rfl run

/-- The entry of a first deposit, into a first wallet. -/
def firstDeposit : Entry :=
  ⟨Uuid.numbered 2, Uuid.numbered 1, .deposit ⟨500⟩, Source.counting.instant 2⟩

/-- A wallet is made and money is added to it, in either store. -/
theorem first_deposit_is_listed :
    (∃ past w b, Chronicle Memory.conduct ⟨⟨.opening [] .start, none⟩, .empty⟩ past w ∧
      committed past = [firstDeposit] ∧ Memory.conduct.books? w = some b ∧
      Memory.conduct.LedgerKept past w b) ∧
    ∃ past db b,
      Chronicle Database.conduct (.opening [] .start [] true ⟨4, ⟨0⟩, true, false⟩) past db ∧
      committed past = [firstDeposit] ∧ Database.conduct.books? db = some b ∧
      Database.conduct.LedgerKept past db b := by
  have inMemory : Chronicle Memory.conduct ⟨⟨.opening [] .start, none⟩, .empty⟩ _ _ :=
    Chronicle.start.play (.unlimited, none) [.createWallet "u", .deposit "u" ⟨500⟩]
  have inDatabase : Chronicle Database.conduct (.opening [] .start [] true ⟨4, ⟨0⟩, true, false⟩)
      _ _ := Chronicle.start.play (.smooth, none) [.createWallet "u", .deposit "u" ⟨500⟩]
  obtain ⟨b, shown, kept⟩ := ledger_is_append_only.1 _ _ _ _ _ _ inMemory
  obtain ⟨b', shown', kept'⟩ := ledger_is_append_only.2 _ _ _ _ _ _ _ inDatabase
  exact ⟨⟨_, _, b, inMemory, by decide +kernel, shown, kept⟩,
    _, _, b', inDatabase, by decide +kernel, shown', kept'⟩

end WalletLedger
