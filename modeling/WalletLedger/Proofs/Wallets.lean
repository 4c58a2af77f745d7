import WalletLedger.Proofs.Database.Confinement
import WalletLedger.Proofs.Memory.Store
import WalletLedger.Proofs.Database.Calls
import WalletLedger.Proofs.Services.Wallets

/-!
# One wallet a user

However many requests make wallets at once, each user ends up with one
(`wallets_made_once`). Both stores look for a wallet and make one in a step of
their own, and no other call adds a wallet or takes one away.
-/

namespace WalletLedger

open Memory Database Routine

/-! ## In memory -/

namespace Memory

/-- The services on a memory store, as routines. -/
def services (pace : Pace) (cache : Cache (StateM Shelf)) (limit : Duration) :
    Services (Routine (World Memory)) :=
  ⟨pacedStore pace, (cache.map World.onShelf).map ofState, limit⟩

/-- What may happen beside requests for wallets: a call that makes no wallet ends in
some way, and anything happens to the cache and to the fault that is armed. -/
def Happens (w w' : World Memory) : Prop :=
  ∃ (pace : Pace) (limit : Option Duration) (call : StoreCall) (r : Except Failure Reply)
    (v : World Memory), (∀ user, call ≠ .createWallet user) ∧
      ((pacedStore pace).perform limit call).Ends w r v ∧ w'.store.books = v.store.books

/-- A memory store holds these books, and they are well formed. -/
def Holds (m : Memory) (b : Books) : Prop := m.books = b ∧ b.WellFormed

/-- No fault is in the way of a new wallet. -/
theorem createWallet_attempt (user : String) (m : Memory) :
    (Work.createWallet user).attempt m =
      (if (m.books.wallet? user).isSome then .error (.refused (.duplicateWallet user))
        else .ok (m.books.newWallet user, (m.books.spend 1 1).addWallet (m.books.newWallet user)),
        m.fault) := by
  unfold Work.attempt Work.createWallet
  simp only [Work.bind_apply, Work.get_apply]
  by_cases taken : (m.books.wallet? user).isSome <;> simp only [taken, ↓reduceIte] <;> rfl

end Memory

theorem forget_isStep {S : Type} (store : Store (Routine (World S))) (cache : Cache (StateM Shelf))
    (limit : Duration) (key : String) :
    ∃ act, IsStep ((⟨store, (cache.map World.onShelf).map ofState, limit⟩ :
      Services (Routine (World S))).forget [key]) act ∧ ∀ w, (act w).2.store = w.store :=
  ⟨_, (isStep_ofState _).map _, fun _ => rfl⟩

theorem Memory.obliging (pace : Pace) (cache : Cache (StateM Shelf)) (limit : Duration) :
    Obliging (services pace cache limit) Holds where
  look user := by
    refine ⟨_, isStep_turn _ _ _, fun w b held => ?_⟩
    obtain ⟨rfl, wf⟩ := held
    exact ⟨rfl, rfl, wf⟩
  make user := by
    refine ⟨_, isStep_turn _ _ _, fun w b held => ?_⟩
    obtain ⟨rfl, wf⟩ := held
    have outcome := createWallet_attempt user w.store
    rcases found : w.store.books.wallet? user with _ | v <;> rw [found] at outcome <;>
      simp only [outcome]
    · exact ⟨⟨_, rfl⟩, rfl, wf.addWallet found⟩
    · exact ⟨rfl, rfl, wf⟩
  forget := forget_isStep _ _ _ _

theorem Memory.Happens.rows {w w' : World Memory} {b : Books} (happened : Happens w w')
    (held : Holds w.store b) :
    ∃ b', Holds w'.store b' ∧ ∀ user, b'.walletId? user = b.walletId? user := by
  obtain ⟨rfl, wf⟩ := held
  obtain ⟨pace, limit, call, r, v, other, ends, same⟩ := happened
  cases perform_ends ends with
  | late => exact ⟨_, ⟨same, wf⟩, fun _ => rfl⟩
  | faulted => exact ⟨_, ⟨same, wf⟩, fun _ => rfl⟩
  | refused => exact ⟨_, ⟨same, wf⟩, fun _ => rfl⟩
  | answered result =>
    have step := Books.respond_step result
    exact ⟨_, ⟨same, step.wellFormed wf⟩, step.walletId?_eq other⟩

/-! ## In a database -/

namespace Database

/-- The services on a database, as routines. -/
def services (course : Course) (cache : Cache (StateM Shelf)) (limit : Duration) :
    Services (Routine (World Database)) :=
  ⟨((storeOn course).map World.onStore).map ofState, (cache.map World.onShelf).map ofState, limit⟩

/-- What may happen beside requests for wallets: a call that makes no wallet takes
some course, and anything happens to the cache. -/
def Happens (w w' : World Database) : Prop :=
  ∃ (course : Course) (limit : Option Duration) (call : StoreCall),
    (∀ user, call ≠ .createWallet user) ∧
      w'.store = ((storeOn course).perform limit call w.store).2

/-- A database keeps these books, they are well formed, and nothing is in the way. -/
def Holds (db : Database) (b : Books) : Prop := Stage True db b ∧ b.WellFormed

section Making

variable {db : Database} {b : Books} {user : String}

theorem makeWallet_vacant (stage : Stage True db b) (vacant : b.wallet? user = none) :
    ∃ db', makeWallet user db = (.ok (b.newWallet user), db') ∧
      Stage True db' ((b.spend 1 1).addWallet (b.newWallet user)) := by
  have responds : b.respond manner (.createWallet user) = _ := Books.respond.eq_1 ..
  have follows : Follows True b (.createWallet user) _ := follows_makeWallet stage
  rw [Attempt.map_apply] at follows
  rcases run : makeWallet user db with ⟨e | made, db'⟩ <;> rw [run] at follows <;>
    simp only [vacant, Option.isSome_none, Bool.false_eq_true, ↓reduceIte] at responds
  · exact absurd ((follows fun _ => trivial).symm.trans responds) (by simp)
  · obtain ⟨b', result, stage⟩ := follows
    cases result.symm.trans responds
    exact ⟨db', rfl, stage⟩

theorem makeWallet_taken (stage : Stage True db b) {w : Wallet} (taken : b.wallet? user = some w) :
    makeWallet user db = (.error (.refused (.duplicateWallet user)), db) := by
  have responds : b.respond manner (.createWallet user) = _ := Books.respond.eq_1 ..
  have follows : Follows True b (.createWallet user) _ := follows_makeWallet stage
  rw [Attempt.map_apply] at follows
  rcases run : makeWallet user db with ⟨e | made, db'⟩ <;> rw [run] at follows <;>
    simp only [taken, Option.isSome_some, ↓reduceIte] at responds
  · obtain rfl := makeWallet_atomic user _ _ _ run
    cases (follows fun _ => trivial).symm.trans responds
    rfl
  · obtain ⟨b', result, -⟩ := follows
    cases result.symm.trans responds

end Making

theorem obliging (course : Course) (cache : Cache (StateM Shelf)) (limit : Duration) :
    Obliging (services course cache limit) Holds where
  look user := by
    refine ⟨_, isStep_ofState _, fun w b held => ?_⟩
    obtain ⟨stage, wf⟩ := held
    show (read (some limit) (walletByUser user) w.store).1 = _ ∧
      Holds (read (some limit) (walletByUser user) w.store).2 b
    rw [(tells_walletByUser stage.readable).read_eq (stage.free trivial).1]
    exact ⟨rfl, stage, wf⟩
  make user := by
    refine ⟨_, isStep_ofState _, fun w b held => ?_⟩
    obtain ⟨stage, wf⟩ := held
    rcases found : b.wallet? user with _ | v
    · obtain ⟨db, made, stage⟩ := makeWallet_vacant stage found
      show (∃ made, (makeWallet user w.store).1 = .ok made) ∧ Holds (makeWallet user w.store).2 _
      rw [made]
      exact ⟨⟨_, rfl⟩, stage, wf.addWallet found⟩
    · show (makeWallet user w.store).1 = .error (.refused (.duplicateWallet user)) ∧
        Holds (makeWallet user w.store).2 b
      rw [makeWallet_taken stage found]
      exact ⟨rfl, stage, wf⟩
  forget := forget_isStep _ _ _ _

theorem Happens.rows {w w' : World Database} {b : Books} (happened : Happens w w')
    (held : Holds w.store b) :
    ∃ b', Holds w'.store b' ∧ ∀ user, b'.walletId? user = b.walletId? user := by
  obtain ⟨stage, wf⟩ := held
  obtain ⟨course, limit, call, other, same⟩ := happened
  rw [same]
  have confined := perform_confined course limit call w.store
  have follows : Follows False b call _ :=
    perform_follows (show Stage False w.store b from ⟨stage.keeps, False.elim, False.elim⟩) wf
      course limit False.elim False.elim
  rcases run : (storeOn course).perform limit call w.store with ⟨e | reply, db⟩ <;>
    rw [run] at confined follows
  · obtain rfl := perform_atomic _ _ _ _ _ _ run
    exact ⟨b, ⟨stage, wf⟩, fun _ => rfl⟩
  · obtain ⟨b', result, kept⟩ := follows
    have step := Books.respond_step result
    exact ⟨b', ⟨stage.of_confined confined kept.keeps, step.wellFormed wf⟩, step.walletId?_eq other⟩

end Database

/-! ## Both stores -/

theorem named_of_not_blank {users : List String}
    (notBlank : ∀ user ∈ users, Text.isBlankText user = false) :
    ∀ user ∈ users, Validation.userId user = .ok () :=
  fun user mem => by simp [Validation.userId, notBlank user mem]

/-- Any number of requests for wallets of any users go on in turn, one call of
their store after another, and other calls come in between, at any pace, on any
course and with any outcome. When all requests are done, every user has one row;
a user who had none was answered once that it was made, and otherwise refused on
account of it; a user who had one still has it and was only refused. -/
theorem wallets_made_once :
    (∀ (pace : Pace) (cache : Cache (StateM Shelf)) (limit : Duration) (users : List String)
      (answers : List (Except Failure (Outcome Wallet))) (w w' : World Memory),
      w.store.books.WellFormed → (∀ user ∈ users, Text.isBlankText user = false) →
      Weave Memory.Happens (users.map (Memory.services pace cache limit).initWallet) w
        (answers.map .done) w' →
      WalletsMade users answers w.store.books.wallets w'.store.books.wallets) ∧
    ∀ (course : Course) (cache : Cache (StateM Shelf)) (limit : Duration) (users : List String)
      (answers : List (Except Failure (Outcome Wallet))) (w w' : World Database) (b : Books),
      Stage True w.store b → b.WellFormed → (∀ user ∈ users, Text.isBlankText user = false) →
      Weave Database.Happens (users.map (Database.services course cache limit).initWallet) w
        (answers.map .done) w' →
      ∃ rows rows', w.store.tables.wallets = some rows ∧ w'.store.tables.wallets = some rows' ∧
        WalletsMade users answers rows rows' := by
  refine ⟨fun pace cache limit users answers w w' wf notBlank weave => ?_,
    fun course cache limit users answers w w' b stage wf notBlank weave => ?_⟩
  · obtain ⟨after, ⟨rfl, -⟩, made⟩ := weave_wallets_made (Memory.obliging pace cache limit)
      And.right (fun held happened => happened.rows held) (named_of_not_blank notBlank) ⟨rfl, wf⟩
      weave
    exact made
  · obtain ⟨after, ⟨stage', -⟩, made⟩ := weave_wallets_made (Database.obliging course cache limit)
      And.right (fun held happened => happened.rows held) (named_of_not_blank notBlank) ⟨stage, wf⟩
      weave
    exact ⟨_, _, stage.keeps.wallets, stage'.keeps.wallets, made⟩

/-- Two requests of one user find no wallet, and the second makes it first. -/
theorem second_request_makes_wallet :
    WalletsMade ["u", "u"] [.error (.refused (.duplicateWallet "u")),
        .ok (.created (Books.empty.newWallet "u"))] [] [Books.empty.newWallet "u"] ∧
      ∃ rows rows', some [] = some rows ∧ some [Books.empty.newWallet "u"] = some rows' ∧
        WalletsMade ["u", "u"] [.error (.refused (.duplicateWallet "u")),
          .ok (.created (Books.empty.newWallet "u"))] rows rows' := by
  have inMemory : Weave Memory.Happens
      (["u", "u"].map (Memory.services .unlimited .absent ⟨0⟩).initWallet) ⟨.empty, .empty⟩
      ([.error (.refused (.duplicateWallet "u")), .ok (.created (Books.empty.newWallet "u"))].map
        .done)
      ⟨⟨(Books.empty.spend 1 1).addWallet (Books.empty.newWallet "u"), none⟩, .empty⟩ :=
    ((((((Weave.start.step (i := 0) rfl rfl).step (i := 1) rfl rfl).step (i := 1) rfl rfl).step
      (i := 0) rfl rfl).step (i := 1) rfl rfl).step (i := 1) rfl rfl)
  have free : Pool.IsFree ⟨4, ⟨0⟩, true, false⟩ := ⟨rfl, rfl⟩
  have inDatabase : Weave Database.Happens
      (["u", "u"].map (Database.services .smooth .absent ⟨0⟩).initWallet)
      ⟨.opening [] .start [] true ⟨4, ⟨0⟩, true, false⟩, .empty⟩
      ([.error (.refused (.duplicateWallet "u")), .ok (.created (Books.empty.newWallet "u"))].map
        .done) _ :=
    ((((((Weave.start.step (i := 0) rfl rfl).step (i := 1) rfl rfl).step (i := 1) rfl rfl).step
      (i := 0) rfl rfl).step (i := 1) rfl rfl).step (i := 1) rfl rfl)
  have stage : Database.Stage True (.opening [] .start [] true ⟨4, ⟨0⟩, true, false⟩)
      (.opening [] .start) :=
    ⟨⟨rfl, ⟨[], rfl, sameUsers_live []⟩, rfl, ⟨[], rfl, rfl⟩, rfl⟩, fun _ => rfl, fun _ => free⟩
  have wf := Books.opening_wellFormed [] .start
  exact ⟨wallets_made_once.1 _ _ _ _ _ _ _ wf (by decide) inMemory,
    wallets_made_once.2 _ _ _ _ _ _ _ _ stage wf (by decide) inDatabase⟩

end WalletLedger
