import WalletLedger.Proofs.Rejections
import WalletLedger.Proofs.Services.Coherence
import Mathlib.Logic.Relation

/-!
# New wallets in the list

A request that makes a wallet takes the list of wallets out of the cache, so the next list that is
answered has the wallet. That comes last, after the wallet was read back: a request that strands its
row ends before it (`Services.Strands.shelf_eq`), and the list from before stays in the cache, which
never forgets it by itself (`made_wallet_is_listed_unless_stranded`,
`stranded_wallet_is_not_listed`).
-/

namespace WalletLedger

open Memory Database Routine

section Listing

variable {S : Type} {rows : S → List Wallet} {s : Services (Routine (World S))} {w w' : World S}
  {user : String}

/-- The calls of a store for wallets leave the cache alone. -/
structure Store.SparesShelf (store : Store (Routine (World S))) : Prop where
  looked : ∀ {limit : Option Duration} {user : String} {w w' : World S}
    {r : Except Failure (Option Wallet)},
    Ends (store.walletByUser limit user) w r w' → w'.shelf = w.shelf
  made : ∀ {user : String} {w w' : World S} {r : Except Failure Wallet},
    Ends (store.createWallet user) w r w' → w'.shelf = w.shelf

/-- A store lists all rows of wallets that it holds, or fails, and changes nothing by it. -/
structure Store.ListsRows (store : Store (Routine (World S))) (rows : S → List Wallet) : Prop where
  listed : ∀ {limit : Option Duration} {w w' : World S} {wallets : List Wallet},
    Ends (store.listWallets limit) w (.ok wallets) w' →
    ∀ row ∈ rows w.store, ∃ v ∈ wallets, v.id = row.id ∧ v.userId = row.userId
  failed : ∀ {limit : Option Duration} {w w' : World S} {e : Failure},
    Ends (store.listWallets limit) w (.error e) w' → w' = w

/-! ## The cache -/

theorem find_ends {α : Type} [Codec α] {key : String} {found : Option α}
    (h : Ends ((Cache.forRoutines : Cache (Routine (World S))).find key) w found w') :
    found = (w.shelf.get? key).bind Codec.read? ∧ w' = w := by
  cases h with
  | now rest =>
    cases rest
    exact ⟨rfl, rfl⟩

/-- What is held under a key is taken away. -/
theorem forget_ends (cached : s.cache = .forRoutines) {key : String} {u : PUnit}
    (h : Ends (s.forget [key]) w u w') :
    w'.store = w.store ∧ w'.shelf = w.shelf.erase key := by
  unfold Services.forget at h
  rw [cached] at h
  cases h with
  | now rest =>
    cases rest
    exact ⟨rfl, rfl⟩

/-! ## The list of wallets -/

/-- A list that is held is answered, whatever the store holds. -/
theorem listWallets_held (cached : s.cache = .forRoutines) {wallets : List Wallet}
    (held : (w.shelf.get? Cache.walletsKey).bind Codec.read? = some wallets)
    {r : Except Failure (Outcome (List Wallet))} (h : Ends s.listWallets w r w') :
    r = .ok (.ok wallets) ∧ w' = w := by
  obtain ⟨found, w₁, looked, rest⟩ := Attempt.ends_lift_bind h
  obtain ⟨rfl, rfl⟩ := find_ends (cached ▸ looked)
  rw [held] at rest
  cases rest
  exact ⟨rfl, rfl⟩

/-- Without a list that is held the store is asked. -/
theorem listWallets_missed (cached : s.cache = .forRoutines)
    (missing : w.shelf.get? Cache.walletsKey = none)
    {r : Except Failure (Outcome (List Wallet))} (h : Ends s.listWallets w r w') :
    (∃ e, r = .error e ∧ Ends (s.store.listWallets (some s.limit)) w (.error e) w') ∨
      ∃ wallets w₁, r = .ok (.ok wallets) ∧
        Ends (s.store.listWallets (some s.limit)) w (.ok wallets) w₁ := by
  obtain ⟨found, w₁, looked, rest⟩ := Attempt.ends_lift_bind h
  obtain ⟨rfl, rfl⟩ := find_ends (cached ▸ looked)
  rw [missing] at rest
  rcases Attempt.ends_bind.mp rest with ⟨e, failed, rfl⟩ | ⟨wallets, w₂, listed, kept⟩
  · exact .inl ⟨e, rfl, failed⟩
  · obtain ⟨_, _, -, done⟩ := Attempt.ends_lift_bind kept
    cases done
    exact .inr ⟨wallets, w₂, rfl, listed⟩

/-- A request for the list of wallets that fails. -/
def Services.FailsToList (s : Services (Routine (World S))) (w w' : World S) : Prop :=
  ∃ e, Ends s.listWallets w (.error e) w'

/-- Requests for the list that fail change nothing. -/
theorem eq_of_failsToList (lists : s.store.ListsRows rows) (cached : s.cache = .forRoutines)
    (missing : w.shelf.get? Cache.walletsKey = none)
    (fails : Relation.ReflTransGen s.FailsToList w w') : w' = w := by
  induction fails with
  | refl => rfl
  | tail _ fails ih =>
    obtain ⟨e, fails⟩ := ih ▸ fails
    rcases listWallets_missed cached missing fails with ⟨_, -, failed⟩ | ⟨_, _, answered, -⟩
    · exact lists.failed failed
    · cases answered

/-- When no list is held, the next one that is answered has every row. -/
theorem listed_of_missed (lists : s.store.ListsRows rows) (cached : s.cache = .forRoutines)
    (missing : w.shelf.get? Cache.walletsKey = none) {row : Wallet} (there : row ∈ rows w.store)
    (fails : Relation.ReflTransGen s.FailsToList w w') {outcome : Outcome (List Wallet)}
    {w'' : World S} (answered : Ends s.listWallets w' (.ok outcome) w'') :
    ∃ v ∈ outcome.data, v.id = row.id ∧ v.userId = row.userId := by
  obtain rfl := eq_of_failsToList lists cached missing fails
  rcases listWallets_missed cached missing answered with ⟨_, failed, -⟩ | ⟨wallets, _, eq, listed⟩
  · cases failed
  · cases eq
    exact lists.listed listed row there

/-! ## Requests for a wallet -/

/-- A wallet that was read back is handed out once the list is taken out of the cache. -/
theorem rereading_answered (cached : s.cache = .forRoutines) {outcome : Outcome Wallet}
    (h : Ends (s.rereading user) w (.ok outcome) w') :
    ∃ found w₁, Ends (s.store.walletByUser (some s.limit) user) w (.ok found) w₁ ∧
      w'.store = w₁.store ∧ w'.shelf = w₁.shelf.erase Cache.walletsKey := by
  rcases Attempt.ends_bind.mp h with ⟨_, -, ⟨⟩⟩ | ⟨_ | found, w₁, looked, rest⟩
  · cases (Attempt.ends_throw.mp rest).1
  · obtain ⟨_, w₂, forgotten, done⟩ := Attempt.ends_lift_bind rest
    obtain ⟨store, shelf⟩ := forget_ends cached forgotten
    cases done
    exact ⟨_, w₁, looked, store, shelf⟩

theorem Services.Strands.shelf_eq (spares : s.store.SparesShelf) {e : Failure}
    (strands : s.Strands user w e w') : w'.shelf = w.shelf := by
  obtain ⟨-, w₁, wallet, w₂, missed, made, lost⟩ := strands
  have shelf : w₂.shelf = w.shelf := (spares.made made).trans (spares.looked missed)
  rcases lost with failed | ⟨missed, -⟩
  · exact (spares.looked failed).trans shelf
  · exact (spares.looked missed).trans shelf

/-- A request leaves the rows and the cache as they were, or it makes a row. Then it takes the list
out of the cache, unless it strands the row. -/
theorem initWallet_cases (keeps : s.store.KeepsRows rows) (spares : s.store.SparesShelf)
    (cached : s.cache = .forRoutines) {r : Except Failure (Outcome Wallet)}
    (ended : Ends (s.initWallet user) w r w') :
    rows w'.store = rows w.store ∧ w'.shelf = w.shelf ∨
      (∃ e, r = .error e ∧ s.Strands user w e w') ∨
      ∃ wallet, wallet.userId = user ∧ rows w'.store = rows w.store ++ [wallet] ∧
        w'.shelf = w.shelf.erase Cache.walletsKey := by
  rcases named : Validation.userId user with broken | _
  · rw [Services.initWallet_unnamed s named] at ended
    obtain ⟨-, rfl⟩ := Attempt.ends_throw.mp ended
    exact .inl ⟨rfl, rfl⟩
  rw [Services.initWallet_eq s named] at ended
  rcases Attempt.ends_bind.mp ended with ⟨_, failed, -⟩ | ⟨_ | existing, w₁, looked, rest⟩
  · exact .inl ⟨keeps.looked failed, spares.looked failed⟩
  · rcases Attempt.ends_bind.mp rest with ⟨_, failed, -⟩ | ⟨wallet, w₂, made, rest⟩
    · exact .inl ⟨(keeps.failed failed).trans (keeps.looked looked),
        (spares.made failed).trans (spares.looked looked)⟩
    · rcases r with e | outcome
      · have lost := rereading_rejected.mp rest
        exact .inr (.inl ⟨e, rfl, named, w₁, wallet, w₂, looked, made, lost⟩)
      · obtain ⟨own, added⟩ := keeps.made made
        obtain ⟨found, w₃, reread, store, forgotten⟩ := rereading_answered cached rest
        refine .inr (.inr ⟨wallet, own, ?_, ?_⟩)
        · rw [store, keeps.looked reread, added, keeps.looked looked]
        · rw [forgotten, spares.looked reread, spares.made made, spares.looked looked]
  · obtain ⟨-, rfl⟩ := Attempt.ends_throw.mp rest
    exact .inl ⟨keeps.looked looked, spares.looked looked⟩

end Listing

/-! ## Either store, with any lookup -/

namespace Memory

theorem sparesShelf {pace : Pace}
    {lookup : Option Duration → String → Attempt (Routine (World Memory)) (Option Wallet)}
    (looked : ∀ {limit user w r w'}, Ends (lookup limit user) w r w' → w'.shelf = w.shelf) :
    Store.SparesShelf { pacedStore pace with walletByUser := lookup } where
  looked := looked
  made {user w w' r} h := by
    have ended : ((pacedStore pace).perform none (.createWallet user)).Ends w (r.map .wallet) w' :=
      Attempt.ends_map _ h
    have ending := perform_ends ended
    generalize r.map Reply.wallet = reply at ending
    cases ending <;> rfl

theorem listsRows (pace : Pace) : (pacedStore pace).ListsRows (·.books.wallets) where
  listed {limit w w' wallets} h row there := by
    cases h with
    | waited _ rest => cases rest
    | overran _ held => exact absurd held (Nat.lt_irrefl 0)
    | served rest =>
      cases rest
      refine ⟨w.store.books.joined row, ?_, rfl, rfl⟩
      exact List.mem_mergeSort.mpr (List.mem_map_of_mem (Source.mem_walletOrder.mpr there))
  failed h := by
    cases h with
    | waited _ rest => cases rest; rfl
    | overran _ held => exact absurd held (Nat.lt_irrefl 0)
    | served rest => cases rest

end Memory

namespace Database

theorem sparesShelf {course : Course}
    {lookup : Option Duration → String → Attempt (Routine (World Database)) (Option Wallet)}
    (looked : ∀ {limit user w r w'}, Ends (lookup limit user) w r w' → w'.shelf = w.shelf) :
    Store.SparesShelf
      { ((storeOn course).map World.onStore).map ofState with walletByUser := lookup } where
  looked := looked
  made h := by
    cases h with
    | now rest => cases rest; rfl

/-- A wallet is looked up without a trace. -/
theorem walletByUser_ends {limit : Option Duration} {user : String} {w w' : World Database}
    {r : Except Failure (Option Wallet)}
    (h : Ends (ofState _ (World.onStore _ (read limit (walletByUser user)))) w r w') : w' = w := by
  cases h with
  | now rest =>
    cases rest
    have same : (read limit (walletByUser user) w.store).2 = w.store := by
      rcases run : read limit (walletByUser user) w.store with ⟨e | found, db⟩
      · exact read_atomic _ _ _ _ _ run
      · rcases read_eq_or_late limit (walletByUser user) w.store with plain | ⟨-, d, late⟩
        · exact reads_walletByUser _ _ _ (answer_ok (plain.symm.trans run))
        · cases late.symm.trans run
    exact congrArg (World.mk · w.shelf) same

/-- All rows are listed, each with its owner. -/
theorem listWallets_ok {db db' : Database} {wallets : List Wallet}
    (listed : listWallets db = .ok (wallets, db')) :
    ∀ row ∈ db.tables.wallets.getD [], ∃ v ∈ wallets, v.id = row.id ∧ v.userId = row.userId := by
  have met : listWallets.Meets False db (fun wallets _ => ∀ row ∈ db.tables.wallets.getD [],
      ∃ v ∈ wallets, v.id = row.id ∧ v.userId = row.userId) fun _ => True := by
    refine Query.meets_bind (Query.meets_acquire False.elim (Query.meets_bind ?_))
    refine Query.meets_of_wallets fun rows there => Query.meets_bind ?_
    refine Query.meets_of_users fun users _ => Query.meets_pure fun row mem => ?_
    rw [there] at mem
    exact ⟨joined users row, List.mem_mergeSort.mpr (List.mem_map_of_mem mem), rfl, rfl⟩
  exact met.of_ok listed

theorem listsRows (course : Course) : Store.ListsRows
    (((storeOn course).map World.onStore).map ofState) (·.tables.wallets.getD []) := by
  have run {limit : Option Duration} {w w' : World Database} {r : Except Failure (List Wallet)}
      (h : Ends (ofState _ (World.onStore _ (read limit listWallets))) w r w') :
      read limit listWallets w.store = (r, w'.store) ∧ w'.shelf = w.shelf := by
    cases h with
    | now rest =>
      cases rest
      exact ⟨rfl, rfl⟩
  refine ⟨fun {limit w w' wallets} h => ?_, fun {limit w w' e} h => ?_⟩
  · obtain ⟨ran, -⟩ := run h
    rcases read_eq_or_late limit listWallets w.store with same | ⟨-, d, late⟩
    · rw [same, answer] at ran
      rcases listed : listWallets w.store with e | ⟨found, db⟩ <;> rw [listed] at ran <;> cases ran
      exact listWallets_ok listed
    · cases late.symm.trans ran
  · obtain ⟨ran, shelf⟩ := run h
    obtain ⟨store, shelf'⟩ := w'
    obtain rfl := read_atomic _ _ _ _ _ ran
    obtain rfl : shelf' = w.shelf := shelf
    rfl

end Database

/-! ## Wallets that are listed, and wallets that are not -/

/-- Whatever the lookups of a store do, a request that changed its rows and did not strand one made
one, and has left no list in the cache: the next list that is answered through this cache, over a
store that lists its rows, has the new wallet. A request that strands a row leaves the cache as it
was, and every request for the list is answered with the list that was held before. -/
theorem made_wallet_is_listed_unless_stranded {S : Type} {rows : S → List Wallet}
    {s s' : Services (Routine (World S))} (keeps : s.store.KeepsRows rows)
    (spares : s.store.SparesShelf) (lists : s'.store.ListsRows rows)
    (cached : s.cache = .forRoutines) (cached' : s'.cache = .forRoutines) (user : String)
    (w w' : World S) (r : Except Failure (Outcome Wallet))
    (ended : Ends (s.initWallet user) w r w') :
    (rows w'.store ≠ rows w.store → (∀ e, r = .error e → ¬ s.Strands user w e w') →
      ∃ wallet, wallet.userId = user ∧ rows w'.store = rows w.store ++ [wallet] ∧
        w'.shelf.get? Cache.walletsKey = none ∧
        ∀ w₁ outcome w₂, Relation.ReflTransGen s'.FailsToList w' w₁ →
          Ends s'.listWallets w₁ (.ok outcome) w₂ →
          ∃ v ∈ outcome.data, v.id = wallet.id ∧ v.userId = user) ∧
    ∀ e, r = .error e → s.Strands user w e w' →
      (∃ wallet, wallet.userId = user ∧ rows w'.store = rows w.store ++ [wallet]) ∧
      w'.shelf = w.shelf ∧
      ∀ wallets, (w.shelf.get? Cache.walletsKey).bind Codec.read? = some wallets →
        ∀ r' w₁, Ends s'.listWallets w' r' w₁ → r' = .ok (.ok wallets) ∧ w₁ = w' := by
  refine ⟨fun changed unstranded => ?_, fun e rejected strands => ?_⟩
  · rcases initWallet_cases keeps spares cached ended with
      ⟨same, -⟩ | ⟨e, rejected, strands⟩ | ⟨wallet, own, added, shelf⟩
    · exact absurd same changed
    · exact absurd strands (unstranded e rejected)
    · have missing : w'.shelf.get? Cache.walletsKey = none := by
        rw [shelf, Shelf.get?_erase, if_pos rfl]
      have there : wallet ∈ rows w'.store := by simp [added]
      refine ⟨wallet, own, added, missing, fun w₁ outcome w₂ fails answered => ?_⟩
      obtain ⟨v, mem, id, user⟩ := listed_of_missed lists cached' missing there fails answered
      exact ⟨v, mem, id, user.trans own⟩
  · have shelf := strands.shelf_eq spares
    refine ⟨strands.rows_eq keeps, shelf, fun wallets held r' w₁ h => ?_⟩
    exact listWallets_held cached' (shelf ▸ held) h

/-- Over either store, whose cache holds a list without wallets, a wallet is made and listed, and
one that lookups miss is made and not listed. -/
theorem blind_request_leaves_list :
    (let s := Memory.services .unlimited .shelf ⟨0⟩
    let w : World Memory := ⟨.empty, ⟨[(Cache.walletsKey, "[]")]⟩⟩
    (∃ wallet w', Ends (s.initWallet "u") w (.ok (.created wallet)) w' ∧
      ∀ outcome w₁, Ends s.listWallets w' (.ok outcome) w₁ → ∃ v ∈ outcome.data, v.userId = "u") ∧
    ∃ wallet w', Ends (s.blind.initWallet "u") w (.error (missingWallet "u")) w' ∧
      w'.store.books.wallets = [wallet] ∧
      ∀ r w₁, Ends s.listWallets w' r w₁ → r = .ok (.ok []) ∧ w₁ = w') ∧
    let s := Database.services .smooth .shelf ⟨0⟩
    let w : World Database :=
      ⟨.opening [] .start [] true ⟨4, ⟨0⟩, true, false⟩, ⟨[(Cache.walletsKey, "[]")]⟩⟩
    (∃ wallet w', Ends (s.initWallet "u") w (.ok (.created wallet)) w' ∧
      ∀ outcome w₁, Ends s.listWallets w' (.ok outcome) w₁ → ∃ v ∈ outcome.data, v.userId = "u") ∧
    ∃ wallet w', Ends (s.blind.initWallet "u") w (.error (missingWallet "u")) w' ∧
      w'.store.tables.wallets.getD [] = [wallet] ∧
      ∀ r w₁, Ends s.listWallets w' r w₁ → r = .ok (.ok []) ∧ w₁ = w' := by
  refine ⟨?_, ?_⟩
  · intro s w
    have looked {limit : Option Duration} {user : String} {v v' : World Memory}
        {r : Except Failure (Option Wallet)}
        (h : Ends ((pacedStore .unlimited).walletByUser limit user) v r v') : v' = v := by
      cases h with
      | waited _ rest => cases rest; rfl
      | overran _ held => exact absurd held (Nat.lt_irrefl 0)
      | served rest => cases rest; rfl
    have lists : s.store.ListsRows (·.books.wallets) := Memory.listsRows .unlimited
    constructor
    · have made := ends_alone (s.initWallet "u") w
      obtain ⟨listed, -⟩ := made_wallet_is_listed_unless_stranded (s := s)
        (Memory.keepsRows fun h => by rw [looked h]) (Memory.sparesShelf fun h => by rw [looked h])
        lists rfl rfl "u" w _ _ made
      obtain ⟨wallet, -, -, -, visible⟩ := listed (List.cons_ne_nil _ _) nofun
      refine ⟨_, _, made, fun outcome w₁ answered => ?_⟩
      obtain ⟨v, mem, -, own⟩ := visible _ outcome w₁ .refl answered
      exact ⟨v, mem, own⟩
    · have strands : s.blind.Strands "u" w (missingWallet "u") _ :=
        ⟨rfl, _, _, _, .done, .served .done, .inr ⟨.done, rfl⟩⟩
      obtain ⟨-, stranded⟩ := made_wallet_is_listed_unless_stranded (s := s.blind)
        (Memory.keepsRows fun h => by cases h; rfl) (Memory.sparesShelf fun h => by cases h; rfl)
        lists rfl rfl "u" w _ _ strands.rejected
      obtain ⟨⟨wallet, -, rows⟩, -, held⟩ := stranded _ rfl strands
      exact ⟨wallet, _, strands.rejected, rows, held [] rfl⟩
  · intro s w
    have lists : s.store.ListsRows (·.tables.wallets.getD []) := Database.listsRows .smooth
    constructor
    · have answered : (Routine.alone (s.initWallet "u") w).1 =
          .ok (.created (Books.empty.newWallet "u")) := by decide +kernel
      have rows : (Routine.alone (s.initWallet "u") w).2.store.tables.wallets =
          some [Books.empty.newWallet "u"] := by decide +kernel
      have made := ends_alone (s.initWallet "u") w
      rw [answered] at made
      obtain ⟨listed, -⟩ := made_wallet_is_listed_unless_stranded (s := s)
        (Database.keepsRows fun h => by rw [walletByUser_ends h])
        (Database.sparesShelf fun h => by rw [walletByUser_ends h]) lists rfl rfl "u" w _ _ made
      obtain ⟨wallet, -, -, -, visible⟩ := listed (by rw [rows]; exact List.cons_ne_nil _ _) nofun
      refine ⟨_, _, made, fun outcome w₁ answered => ?_⟩
      obtain ⟨v, mem, -, own⟩ := visible _ outcome w₁ .refl answered
      exact ⟨v, mem, own⟩
    · have strands : s.blind.Strands "u" w (missingWallet "u") _ :=
        ⟨rfl, _, Books.empty.newWallet "u", _, .done, .now .done, .inr ⟨.done, rfl⟩⟩
      obtain ⟨-, stranded⟩ := made_wallet_is_listed_unless_stranded (s := s.blind)
        (Database.keepsRows fun h => by cases h; rfl)
        (Database.sparesShelf fun h => by cases h; rfl) lists rfl rfl "u" w _ _ strands.rejected
      obtain ⟨⟨wallet, -, rows⟩, -, held⟩ := stranded _ rfl strands
      exact ⟨wallet, _, strands.rejected, rows, held [] rfl⟩

/-- The list of wallets is asked for, a request that misses its wallet makes it, and the list is
asked for again: it is the list from before. -/
theorem stranded_wallet_is_not_listed :
    let s := Memory.services .unlimited .shelf ⟨0⟩
    ∃ w w' wallet, s.listWallets.alone ⟨.empty, .empty⟩ = (.ok (.ok []), w) ∧
      (s.blind.initWallet "u").alone w = (.error (missingWallet "u"), w') ∧
      w'.store.books.wallets = [wallet] ∧
      s.listWallets.alone w' = (.ok (.ok []), w') := by
  intro s
  have listed : s.listWallets.alone ⟨.empty, .empty⟩ =
      (.ok (.ok []), ⟨.empty, ⟨[(Cache.walletsKey, "[]")]⟩⟩) :=
    Prod.ext (by decide +kernel) (congrArg₂ World.mk rfl (by decide +kernel))
  have lost : (s.blind.initWallet "u").alone ⟨.empty, ⟨[(Cache.walletsKey, "[]")]⟩⟩ =
      (.error (missingWallet "u"),
        ⟨⟨(Books.empty.spend 1 1).addWallet (Books.empty.newWallet "u"), none⟩,
          ⟨[(Cache.walletsKey, "[]")]⟩⟩) := rfl
  exact ⟨_, _, _, listed, lost, rfl, rfl⟩

end WalletLedger
