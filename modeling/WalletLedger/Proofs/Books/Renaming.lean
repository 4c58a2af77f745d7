import WalletLedger.Proofs.Books.Listings
import WalletLedger.Proofs.Renaming
import WalletLedger.Proofs.Services.Fulfilment

/-!
# Books under other names

Books are `Renamed` when they hold what other books hold, under other identifiers
and times. Then every lookup finds what it finds in the others, renamed, and so
do the listings, as long as products of one name are listed by age
(`Renamed.listProducts_eq`).

A purchase and a deletion look at the clock of a database once more than at that
of a memory store (`Request.spareLooks`). So a request comes to the same on books
of a memory store that are those of a database, renamed, if every time that it
is given there is taken to one that it is given here (`fulfil_goes`).
-/

namespace WalletLedger

open Memory

/-- How much more often a request looks at the clock of a database, if it is answered. -/
def Request.spareLooks : Request → Nat
  | .purchase _ _ _ | .deleteProduct _ => 1
  | _ => 0

theorem Request.spareLooks_le (r : Request) : r.spareLooks ≤ 1 := by
  cases r <;> simp [spareLooks]

/-- A movement, with the product that it is about renamed. -/
def Renaming.movement (ρ : Renaming) : Movement → Movement
  | .purchase user id quantity => .purchase user (ρ.id id) quantity
  | m => m

namespace Memory.Books

variable {α β : Type} {ρ : Renaming} {b b' : Books} {user id : String}

/-- Products of one name are listed by age where their order is kept. -/
theorem listProducts_eq (wf : b.WellFormed) (orderly : b.supply.source.IsOrderly) :
    b.listProducts = ((b.articles.filter fun a => !a.deleted).map (·.product)).mergeSort
      fun p q => p.name ≤ q.name := by
  let c : Books := { b with supply := b.supply.inOrder }
  have wf' : c.WellFormed :=
    ⟨wf.wallets, wf.articles, wf.entries, wf.owners, wf.holders, wf.goods⟩
  have orderly' : c.supply.source.IsOrderly := fun _ _ => rfl
  have same : b.listProducts.Perm c.listProducts :=
    (List.mergeSort_perm ..).trans <| (((b.supply.source.articleOrder_perm b.articles).filter _).map
      _).trans (List.mergeSort_perm ..).symm
  have listed := listProducts_inOrder wf
  have listed' := listProducts_inOrder wf'
  rw [eq_true orderly] at listed
  rw [eq_true orderly'] at listed'
  refine same.eq_of_pairwise (fun p q _ _ first second => ?_) listed listed'
  rcases first with lt | ⟨name, older⟩ <;> rcases second with lt' | ⟨name', older'⟩
  · exact absurd lt' (String.lt_asymm lt)
  · exact absurd (name' ▸ lt) (String.lt_irrefl _)
  · exact absurd (name ▸ lt') (String.lt_irrefl _)
  · exact absurd (older' trivial).1 (older trivial).2

/-- Books hold what other books hold, under other identifiers and times. -/
structure Renamed (ρ : Renaming) (b b' : Books) : Prop where
  wallets : b'.wallets = b.wallets.map ρ.wallet
  articles : b'.articles = b.articles.map ρ.article
  entries : b'.entries = b.entries.map ρ.entry
  users : b'.users = b.users

namespace Renamed

theorem opening (ρ : Renaming) (users : List User) (supply supply' : Supply) :
    Renamed ρ (.opening users supply) (.opening users supply') :=
  ⟨rfl, rfl, rfl, rfl⟩

/-! ## Lookups and listings -/

theorem wallet?_eq (h : Renamed ρ b b') (user : String) :
    b'.wallet? user = (b.wallet? user).map ρ.wallet := by
  rw [wallet?, h.wallets, List.find?_map]
  rfl

theorem joined_eq (h : Renamed ρ b b') (w : Wallet) :
    b'.joined (ρ.wallet w) = ρ.wallet (b.joined w) := by
  simp only [joined, user?, h.users, Renaming.wallet]

theorem holding_eq (h : Renamed ρ b b') (user : String) :
    b'.holding user = ρ.result ρ.wallet (b.holding user) := by
  rw [holding, holding, h.wallet?_eq]
  rcases Validation.userId user with _ | _
  · rfl
  · rcases b.wallet? user with _ | w
    · rfl
    · exact congrArg Except.ok (h.joined_eq w)

theorem listWallets_eq (h : Renamed ρ b b') (wf : b.WellFormed) (wf' : b'.WellFormed) :
    b'.listWallets = b.listWallets.map ρ.wallet := by
  rw [Books.listWallets_eq wf', Books.listWallets_eq wf, h.wallets, List.map_map, List.map_map]
  exact List.map_congr_left fun w _ => h.joined_eq w

theorem listEntries_eq (h : Renamed ρ b b') : b'.listEntries = b.listEntries.map ρ.entry := by
  rw [listEntries, h.entries]
  exact List.map_reverse.symm

theorem listProducts_eq (h : Renamed ρ b b') (wf : b.WellFormed) (wf' : b'.WellFormed)
    (orderly : b.supply.source.IsOrderly) (orderly' : b'.supply.source.IsOrderly) :
    b'.listProducts = b.listProducts.map ρ.product := by
  rw [Books.listProducts_eq wf' orderly', Books.listProducts_eq wf orderly, List.map_mergeSort,
    h.articles, List.filter_map, List.map_map, List.map_map]
  · rfl
  · exact fun _ _ _ _ => rfl

variable (h : Renamed ρ b b') (injective : Function.Injective ρ.id)
include h injective

theorem history_eq (user : String) : b'.history user = (b.history user).map ρ.entry := by
  rw [history, history, h.wallet?_eq]
  rcases b.wallet? user with _ | w
  · rfl
  · show b'.listEntries.filter (·.walletId == ρ.id w.id) =
      (b.listEntries.filter (·.walletId == w.id)).map ρ.entry
    rw [h.listEntries_eq, List.filter_map]
    congr 2
    funext e
    simp [Renaming.entry, injective.eq_iff]

theorem product?_eq (id : String) : b'.product? (ρ.id id) = (b.product? id).map ρ.product := by
  have found : b'.article? (ρ.id id) = (b.article? id).map ρ.article := by
    rw [article?, h.articles, List.find?_map]
    congr 2
    funext a
    simp [Renaming.article, Renaming.product, injective.eq_iff]
  rw [product?, product?, found]
  rcases b.article? id with _ | ⟨p, _ | _⟩ <;> rfl

theorem existing_eq (uuid : ∀ id, Validation.uuid (ρ.id id) = Validation.uuid id) (id : String) :
    b'.existing (ρ.id id) = ρ.result ρ.product (b.existing id) := by
  rw [existing, existing, uuid, h.product?_eq injective]
  rcases Validation.uuid id with _ | _ <;> rcases b.product? id with _ | _ <;> rfl

end Renamed

/-! ## Writes -/

/-- Every time that an outcome on books was given is taken to one that other books are given next,
without those that are to spare at first. -/
def TakesTimes (ρ : Renaming) (b b' : Books) (spare : Nat) (outcome : Except Failure (α × Books)) :
    Prop :=
  ∀ look, b.supply.looks + look < (b.leaves outcome).supply.looks →
    ρ.time (b.instant look) = b'.instant (look - spare)

/-- Outcomes on books and on others that are these, renamed: both fail alike, or what is told and
what is left behind is renamed. Both take the same identifiers, one at most. -/
inductive Goes (ρ : Renaming) (b b' : Books) (spare : Nat) (rename : α → α) :
    Except Failure (α × Books) → Except Failure (α × Books) → Prop
  | failed (e : Failure) : Goes ρ b b' spare rename (.error e) (.error (ρ.failure e))
  | done (ids looks : Nat) (a : α) {after after' : Books} (renamed : Renamed ρ after after')
      (one : ids ≤ 1) (taken : after.supply = b.supply.spend ids looks)
      (taken' : after'.supply = b'.supply.spend ids (looks - spare)) :
      Goes ρ b b' spare rename (.ok (a, after)) (.ok (rename a, after'))

theorem TakesTimes.of_map {spare : Nat} {outcome : Except Failure (α × Books)} {f : α → β}
    (times : TakesTimes ρ b b' spare (outcome.map fun (a, after) => (f a, after))) :
    TakesTimes ρ b b' spare outcome := by
  rcases outcome with _ | ⟨_, _⟩ <;> exact times

namespace Goes

variable {spare : Nat} {rename : α → α} {o o' : Except Failure (α × Books)}

/-- What is told may be told in other words. -/
theorem map (h : Goes ρ b b' spare rename o o') {f : α → β} {rename' : β → β}
    (commutes : ∀ a, f (rename a) = rename' (f a)) :
    Goes ρ b b' spare rename' (o.map fun (a, after) => (f a, after))
      (o'.map fun (a, after) => (f a, after)) := by
  cases h with
  | failed e => exact .failed e
  | done ids looks a renamed one taken taken' =>
    show Goes ρ b b' spare rename' (.ok (f a, _)) (.ok (f (rename a), _))
    rw [commutes]
    exact .done ids looks (f a) renamed one taken taken'

/-- What is told of books that are left alone. -/
theorem told (h : Renamed ρ b b') {a a' : α} (same : a' = rename a) :
    Goes ρ b b' 0 rename (.ok (a, b)) (.ok (a', b')) :=
  same ▸ .done 0 0 a h (Nat.zero_le 1) rfl rfl

/-- What comes of it: a renamed answer, renamed books, and what was taken of the supplies. -/
theorem comes (goes : Goes ρ b b' spare rename o o') (h : Renamed ρ b b') :
    o'.map Prod.fst = ρ.result rename (o.map Prod.fst) ∧ Renamed ρ (b.leaves o) (b'.leaves o') ∧
      ∃ ids looks, ids ≤ 1 ∧ (b.leaves o).supply = b.supply.spend ids looks ∧
        (b'.leaves o').supply = b'.supply.spend ids (looks - spare) := by
  cases goes with
  | failed e => exact ⟨rfl, h, 0, 0, Nat.zero_le 1, rfl, by rw [Nat.zero_sub]; rfl⟩
  | done ids looks a renamed one taken taken' =>
    exact ⟨rfl, renamed, ids, looks, one, taken, taken'⟩

/-- What leaves the books alone, if it does not fail. -/
theorem view (h : Renamed ρ b b') {x x' : Except Failure α} (same : x' = ρ.result rename x)
    {f : α → β} {rename' : β → β} (commutes : ∀ a, f (rename a) = rename' (f a)) :
    Goes ρ b b' 0 rename' (x.map fun a => (f a, b)) (x'.map fun a => (f a, b')) := by
  subst same
  rcases x with e | a
  · exact .failed e
  · exact told h (commutes a)

end Goes

namespace Renamed

/-- What is left of the supplies does not matter. -/
theorem spend (h : Renamed ρ b b') (ids looks ids' looks' : Nat) :
    Renamed ρ (b.spend ids looks) (b'.spend ids' looks') :=
  ⟨h.wallets, h.articles, h.entries, h.users⟩

theorem setBalance (h : Renamed ρ b b') {balance : Money} {time time' : Timestamp}
    (same : ρ.time time = time') :
    Renamed ρ (b.setBalance user balance time) (b'.setBalance user balance time') where
  wallets := by
    show b'.wallets.map _ = (b.wallets.map _).map ρ.wallet
    rw [h.wallets, List.map_map, List.map_map, ← same]
    refine List.map_congr_left fun w _ => ?_
    simp only [Function.comp_apply]
    show (if w.userId = user then _ else _) = _
    split <;> rfl
  articles := h.articles
  entries := h.entries
  users := h.users

theorem setArticle (h : Renamed ρ b b') (injective : Function.Injective ρ.id)
    {change change' : Article → Article} (same : ∀ a, change' (ρ.article a) = ρ.article (change a))
    (id : String) : Renamed ρ (b.setArticle id change) (b'.setArticle (ρ.id id) change') where
  wallets := h.wallets
  articles := by
    show b'.articles.map _ = (b.articles.map _).map ρ.article
    rw [h.articles, List.map_map, List.map_map]
    refine List.map_congr_left fun a _ => ?_
    simp only [Function.comp_apply, Renaming.article, Renaming.product, injective.eq_iff]
    split
    · exact same a
    · rfl
  entries := h.entries
  users := h.users

theorem setStock (h : Renamed ρ b b') (injective : Function.Injective ρ.id) {stock : Int64}
    {time time' : Timestamp} (same : ρ.time time = time') (id : String) :
    Renamed ρ (b.setStock id stock time) (b'.setStock (ρ.id id) stock time') :=
  h.setArticle injective (fun _ => same ▸ rfl) id

theorem addEntry (h : Renamed ρ b b') (e : Entry) :
    Renamed ρ (b.addEntry e) (b'.addEntry (ρ.entry e)) where
  wallets := h.wallets
  articles := h.articles
  entries := by
    show b'.entries ++ [_] = (b.entries ++ [e]).map ρ.entry
    rw [h.entries, List.map_append]
    rfl
  users := h.users

theorem addWallet (h : Renamed ρ b b') (w : Wallet) :
    Renamed ρ (b.addWallet w) (b'.addWallet (ρ.wallet w)) where
  wallets := by
    show b'.wallets ++ [_] = (b.wallets ++ [w]).map ρ.wallet
    rw [h.wallets, List.map_append]
    rfl
  articles := h.articles
  entries := h.entries
  users := h.users

theorem addProduct (h : Renamed ρ b b') (p : Product) :
    Renamed ρ (b.addProduct p) (b'.addProduct (ρ.product p)) where
  wallets := h.wallets
  articles := by
    show b'.articles ++ [_] = (b.articles ++ [Article.mk p false]).map ρ.article
    rw [h.articles, List.map_append]
    rfl
  entries := h.entries
  users := h.users

end Renamed

section Given

variable (given : ρ.id b.next.id = b'.next.id)
include given

theorem newWallet_renamed (now : ρ.time b.next.time = b'.next.time) (user : String) :
    b'.newWallet user = ρ.wallet (b.newWallet user) := by
  rw [newWallet, ← given, ← now]
  rfl

theorem newProduct_renamed (now : ρ.time b.next.time = b'.next.time) (fields : NewProduct) :
    b'.newProduct fields = ρ.product (b.newProduct fields) := by
  rw [newProduct, ← given, ← now]
  rfl

theorem newEntry_renamed {look look' : Nat} (committed : ρ.time (b.instant look) = b'.instant look')
    (walletId : String) (kind : EntryKind) :
    b'.newEntry (ρ.id walletId) (ρ.kind kind) look' = ρ.entry (b.newEntry walletId kind look) := by
  rw [newEntry, ← given, ← committed]
  rfl

theorem Renamed.post (h : Renamed ρ b b') (now : ρ.time b.next.time = b'.next.time)
    {look look' : Nat} (committed : ρ.time (b.instant look) = b'.instant look')
    (user walletId : String) (balance : Money) (kind : EntryKind) :
    Renamed ρ (b.post user walletId balance kind look)
      (b'.post user (ρ.id walletId) balance (ρ.kind kind) look') := by
  unfold Books.post
  rw [newEntry_renamed given committed]
  exact ((h.spend 1 _ 1 _).setBalance now).addEntry _

end Given

/-! ## Calls -/

section Calls

variable (h : Renamed ρ b b') (injective : Function.Injective ρ.id)
  (given : ρ.id b.next.id = b'.next.id) {amount : Money} {quantity : Int64} {fields : NewProduct}

include h given

/-- A balance is written and an entry committed at the next two looks at the clock. -/
theorem post_goes {w : Wallet} {balance : Money} {kind : EntryKind} (same : ρ.kind kind = kind)
    (times : TakesTimes ρ b b' 0 (.ok (Reply.entry (b.newEntry w.id kind 1),
      b.post user w.id balance kind 1))) :
    Goes ρ b b' 0 ρ.reply
      (.ok (.entry (b.newEntry w.id kind 1), b.post user w.id balance kind 1))
      (.ok (.entry (b'.newEntry (ρ.id w.id) kind 1),
        b'.post user (ρ.id w.id) balance kind 1)) := by
  have now : ρ.time b.next.time = b'.next.time := times 0 (Nat.lt_add_of_pos_right Nat.two_pos)
  have committed : ρ.time (b.instant 1) = b'.instant 1 := times 1 (Nat.lt_succ_self _)
  have entry := newEntry_renamed given committed w.id kind
  have post := h.post given now committed user w.id balance kind
  rw [same] at entry post
  rw [entry]
  exact .done 1 2 _ post (Nat.le_refl 1) rfl rfl

theorem deposit_goes
    (times : TakesTimes ρ b b' 0 (b.respond Database.manner (.deposit user amount))) :
    Goes ρ b b' 0 ρ.reply (b.respond Database.manner (.deposit user amount))
      (b'.respond manner (.deposit user amount)) := by
  simp only [respond, h.wallet?_eq] at times ⊢
  rcases holder : b.wallet? user with _ | w <;> simp only [holder] at times ⊢
  · exact .failed _
  simp only [Option.map_some, Renaming.wallet_balance, Renaming.wallet_id]
  rcases exact : w.balance.add? amount with _ | balance <;> simp only [exact] at times ⊢
  · exact .failed _
  · exact post_goes h given rfl times

theorem withdraw_goes
    (times : TakesTimes ρ b b' 0 (b.respond Database.manner (.withdraw user amount))) :
    Goes ρ b b' 0 ρ.reply (b.respond Database.manner (.withdraw user amount))
      (b'.respond manner (.withdraw user amount)) := by
  simp only [respond, h.wallet?_eq] at times ⊢
  rcases holder : b.wallet? user with _ | w <;> simp only [holder] at times ⊢
  · exact .failed _
  simp only [Option.map_some, Renaming.wallet_balance, Renaming.wallet_id]
  by_cases short : w.balance < amount <;> simp only [short, ↓reduceIte] at times ⊢
  · exact .failed _
  rcases exact : w.balance.sub amount with _ | balance <;> simp only [exact] at times ⊢
  · exact .failed _
  · exact post_goes h given rfl times

theorem insertProduct_goes
    (times : TakesTimes ρ b b' 0 (b.respond Database.manner (.insertProduct fields))) :
    Goes ρ b b' 0 ρ.reply (b.respond Database.manner (.insertProduct fields))
      (b'.respond manner (.insertProduct fields)) := by
  have now : ρ.time b.next.time = b'.next.time := times 0 (Nat.lt_succ_self _)
  rw [respond, respond, newProduct_renamed given now]
  exact .done 1 1 _ ((h.spend 1 1 1 1).addProduct _) (Nat.le_refl 1) rfl rfl

include injective

/-- The wallet and the product are written at two looks at the clock of a database, and at one at
that of a memory store. -/
theorem purchase_goes
    (times : TakesTimes ρ b b' 1 (b.respond Database.manner (.purchase user id quantity))) :
    Goes ρ b b' 1 ρ.reply (b.respond Database.manner (.purchase user id quantity))
      (b'.respond manner (.purchase user (ρ.id id) quantity)) := by
  simp only [respond, h.wallet?_eq, h.product?_eq injective] at times ⊢
  rcases holder : b.wallet? user with _ | w <;> simp only [holder] at times ⊢
  · exact .failed _
  rcases live : b.product? id with _ | p <;> simp only [live] at times ⊢
  · exact .failed (.refused (.productNotFound id))
  simp only [Option.map_some, Renaming.wallet_balance, Renaming.wallet_id, Renaming.product_price,
    Renaming.product_stock]
  by_cases scarce : p.stock.toInt < quantity.toInt <;> simp only [scarce, ↓reduceIte] at times ⊢
  · exact .failed (.refused (.insufficientStock id p.stock quantity))
  rcases priced : p.price.mul? quantity with _ | total <;> simp only [priced] at times ⊢
  · exact .failed _
  by_cases short : w.balance < total <;> simp only [short, ↓reduceIte] at times ⊢
  · exact .failed _
  rcases exact : w.balance.sub total with _ | balance <;> simp only [exact] at times ⊢
  · exact .failed _
  rcases left : subtract p.stock quantity with _ | stock <;> simp only [left] at times ⊢
  · exact .failed _
  have now : ρ.time b.next.time = b'.next.time := times 0 (Nat.lt_add_of_pos_right (Nat.succ_pos 2))
  have written : ρ.time (b.instant 1) = b'.instant 0 :=
    times 1 (Nat.add_lt_add_left (by decide) _)
  have committed : ρ.time (b.instant 2) = b'.instant 1 := times 2 (Nat.lt_succ_self _)
  have entry := newEntry_renamed given committed w.id (.purchase id quantity total)
  have post := h.post given now committed user w.id balance (.purchase id quantity total)
  rw [show b'.newEntry (ρ.id w.id) (.purchase (ρ.id id) quantity total) (manner.stockLook + 1) = _
    from entry]
  exact .done 1 3 (Reply.entry _) (post.setStock injective written id) (Nat.le_refl 1) rfl rfl

omit given in
theorem updateProduct_goes
    (times : TakesTimes ρ b b' 0 (b.respond Database.manner (.updateProduct id fields))) :
    Goes ρ b b' 0 ρ.reply (b.respond Database.manner (.updateProduct id fields))
      (b'.respond manner (.updateProduct (ρ.id id) fields)) := by
  simp only [respond, h.product?_eq injective] at times ⊢
  rcases live : b.product? id with _ | p <;> simp only [live] at times ⊢
  · exact .failed (.refused (.productNotFound id))
  simp only [Option.map_some]
  have now : ρ.time b.next.time = b'.next.time := times 0 (Nat.lt_succ_self _)
  have revised : (ρ.product p).revised fields b'.next.time =
      ρ.product (p.revised fields b.next.time) := by
    rw [← now]
    rfl
  rw [revised]
  refine .done 0 1 (Reply.product _) ((h.spend 0 1 0 1).setArticle injective ?_ id)
    (Nat.zero_le 1) rfl rfl
  exact fun _ => rfl

omit given in
/-- A deletion looks at the clock of a database only. -/
theorem deleteProduct_goes : Goes ρ b b' 1 ρ.reply (b.respond Database.manner (.deleteProduct id))
    (b'.respond manner (.deleteProduct (ρ.id id))) := by
  simp only [respond, h.product?_eq injective]
  rcases b.product? id with _ | p
  · exact .failed (.refused (.productNotFound id))
  refine .done 0 1 Reply.nothing ((h.spend 0 1 0 0).setArticle injective ?_ id)
    (Nat.zero_le 1) rfl rfl
  exact fun _ => rfl

end Calls

/-! ## Requests -/

/-- A flaw of a movement tells of no product. -/
theorem error_of_flaw {m : Movement} {e : LedgerError} (flaw : m.flaw? = some e) :
    ρ.error e = e := by
  unfold Movement.flaw? at flaw
  repeat' split at flaw
  all_goals
    cases flaw
    try rfl

section Requests

variable (h : Renamed ρ b b') (injective : Function.Injective ρ.id)
  (given : ρ.id b.next.id = b'.next.id)
include h injective given

theorem respond_goes {m : Movement}
    (times : TakesTimes ρ b b' m.request.spareLooks (b.respond Database.manner m.call)) :
    Goes ρ b b' m.request.spareLooks ρ.reply (b.respond Database.manner m.call)
      (b'.respond manner (ρ.movement m).call) := by
  cases m with
  | deposit user amount => exact deposit_goes h given times
  | withdraw user amount => exact withdraw_goes h given times
  | purchase user id quantity => exact purchase_goes h injective given times

theorem move_goes {m : Movement}
    (times : TakesTimes ρ b b' m.request.spareLooks (b.move Database.manner none m)) :
    Goes ρ b b' m.request.spareLooks (Outcome.map ρ.reply) (b.move Database.manner none m)
      (b'.move manner none (ρ.movement m)) := by
  have flaws : (ρ.movement m).flaw? = m.flaw? := by cases m <;> rfl
  unfold move at times ⊢
  rw [flaws]
  rcases flaw : m.flaw? with _ | e <;> simp only [flaw] at times ⊢
  · exact (respond_goes h injective given times.of_map).map fun _ => rfl
  · have same : ρ.failure (.refused e) = .refused e := congrArg Failure.refused (error_of_flaw flaw)
    have failed : Goes ρ b b' m.request.spareLooks (Outcome.map ρ.reply) (.error (.refused e))
        (.error (ρ.failure (.refused e))) := .failed (.refused e)
    rwa [same] at failed

/-- A request comes to what it comes to in the other books, renamed. -/
theorem fulfil_goes (uuid : ∀ id, Validation.uuid (ρ.id id) = Validation.uuid id)
    (wf : b.WellFormed) (wf' : b'.WellFormed) (orderly : b.supply.source.IsOrderly)
    (orderly' : b'.supply.source.IsOrderly) (r : Request)
    (times : TakesTimes ρ b b' r.spareLooks (b.fulfil Database.manner none r)) :
    Goes ρ b b' r.spareLooks (Outcome.map ρ.reply) (b.fulfil Database.manner none r)
      (b'.fulfil manner none (ρ.request r)) := by
  cases r with
  | initWallet user =>
    simp only [Renaming.request, fulfil, h.wallet?_eq] at times ⊢
    rcases named : Validation.userId user with e | _ <;> rw [named] at times
    · exact .failed (.refused (.validation e))
    rcases holder : b.wallet? user with _ | w <;> simp only [holder] at times ⊢
    · have now : ρ.time b.next.time = b'.next.time := times 0 (Nat.lt_succ_self _)
      simp only [Option.map_none, newWallet_renamed given now, h.joined_eq]
      exact .done 1 1 (Outcome.created (Reply.wallet _)) ((h.spend 1 1 1 1).addWallet _)
        (Nat.le_refl 1) rfl rfl
    · simp only [Option.map_some, h.joined_eq]
      exact .failed (.refused (.walletAlreadyExists (b.joined w)))
  | getWallet user => exact .view h (h.holding_eq user) fun _ => rfl
  | balance user => exact .view h (h.holding_eq user) fun _ => rfl
  | listWallets =>
    exact .told h (congrArg (Outcome.ok <| Reply.wallets ·) (h.listWallets_eq wf wf'))
  | deposit user amount => exact move_goes h injective given times
  | withdraw user amount => exact move_goes h injective given times
  | purchase user id quantity => exact move_goes h injective given times
  | history user =>
    simp only [Renaming.request, fulfil]
    rcases Validation.userId user with e | _
    · exact .failed (.refused (.validation e))
    · exact .told h (congrArg (Outcome.ok <| Reply.entries ·) (h.history_eq injective user))
  | listEntries => exact .told h (congrArg (Outcome.ok <| Reply.entries ·) h.listEntries_eq)
  | listProducts =>
    exact .told h (congrArg (Outcome.ok <| Reply.products ·)
      (h.listProducts_eq wf wf' orderly orderly'))
  | getProduct id => exact .view h (h.existing_eq injective uuid id) fun _ => rfl
  | createProduct fields =>
    simp only [Renaming.request, fulfil] at times ⊢
    rcases valid : Validation.newProduct fields with e | _ <;> rw [valid] at times
    · exact .failed (.refused (.validation e))
    · exact (insertProduct_goes h given times).map fun _ => rfl
  | updateProduct id fields =>
    simp only [Renaming.request, fulfil, h.existing_eq injective uuid] at times ⊢
    rcases valid : Validation.newProduct fields with e | _ <;> rw [valid] at times
    · exact .failed (.refused (.validation e))
    rcases found : b.existing id with e | p <;> rw [found] at times
    · exact .failed e
    · have times : TakesTimes ρ b b' 0 (b.respond Database.manner (.updateProduct id fields)) :=
        TakesTimes.of_map times
      exact (updateProduct_goes h injective times).map fun _ => rfl
  | deleteProduct id =>
    simp only [Renaming.request, fulfil, h.existing_eq injective uuid]
    rcases b.existing id with e | p
    · exact .failed e
    · exact (deleteProduct_goes h injective).map fun _ => rfl

end Requests

end Memory.Books

end WalletLedger
