import WalletLedger.Cache
import WalletLedger.Proofs.Books.Step
import WalletLedger.Proofs.Codec

/-!
# Views of the books

Four kinds of answers of a store are kept in a cache, each under a key of its
own (`View.key_injective`). A text shows a view when it reads as what the books
answer. A step of the books makes stale the views of its call at most: a text
that shows another view still shows it (`Step.shown`). What books with valid
times answer is shown by its own text (`IsTimely.shown_entries` and its
companions).
-/

namespace WalletLedger

/-- What is kept in a cache. -/
inductive View
  | entries
  | wallets
  | products
  | product (id : String)
deriving DecidableEq

/-- The key of a view. -/
def View.key : View → String
  | .entries => Cache.entriesKey
  | .wallets => Cache.walletsKey
  | .products => Cache.productsKey
  | .product id => Cache.productKey id

theorem productKey_inj {id id' : String} (same : Cache.productKey id = Cache.productKey id') :
    id = id' := by
  have texts := congrArg String.toList same
  simp only [Cache.productKey, String.toList_append] at texts
  exact String.toList_inj.mp (List.append_cancel_left texts)

/-- The key of one product is not that of a list. -/
theorem productKey_ne {id key : String} (other : "product/".toList.isPrefixOf key.toList = false) :
    Cache.productKey id ≠ key := by
  rintro rfl
  rw [Cache.productKey, String.toList_append] at other
  have : "product/".toList <+: "product/".toList ++ id.toList := List.prefix_append _ _
  rw [← List.isPrefixOf_iff_prefix, other] at this
  cases this

/-- Only a spelling of a UUID names a product. -/
def View.IsNamed : View → Prop
  | .product id => Validation.uuid id = .ok ()
  | _ => True

/-- No two views have one key. -/
theorem View.key_injective {v v' : View} (same : v.key = v'.key) : v = v' := by
  cases v <;> cases v' <;> simp only [key] at same
  case product.product id id' => rw [productKey_inj same]
  case product.entries => exact absurd same (productKey_ne rfl)
  case product.wallets => exact absurd same (productKey_ne rfl)
  case product.products => exact absurd same (productKey_ne rfl)
  case entries.product => exact absurd same.symm (productKey_ne rfl)
  case wallets.product => exact absurd same.symm (productKey_ne rfl)
  case products.product => exact absurd same.symm (productKey_ne rfl)
  all_goals first | rfl | exact absurd same (by decide)

/-- The views that a call makes stale when it is answered. -/
def StoreCall.stale : StoreCall → List View
  | .createWallet _ => [.wallets]
  | .insertProduct _ => [.products]
  | .updateProduct id _ | .deleteProduct id => [.products, .product id]
  | .deposit _ _ | .withdraw _ _ => [.entries, .wallets]
  | .purchase _ id _ => [.entries, .wallets, .products, .product id]
  | _ => []

/-- All times that a supply has given out are valid. -/
def Supply.IsTimely (s : Supply) : Prop :=
  ∀ look < s.looks, (s.source.instant look).IsValid

instance (s : Supply) : Decidable s.IsTimely :=
  inferInstanceAs (Decidable (∀ look < s.looks, (s.source.instant look).IsValid))

theorem Supply.IsTimely.of_le {s t : Supply} (h : t.IsTimely) (le : s ≤ t) : s.IsTimely :=
  fun look taken => le.source ▸ h look (Nat.lt_of_lt_of_le taken le.looks)

namespace Memory.Books

variable {b b' : Books}

/-- A text reads as what the books answer to a view. -/
def Shown (b : Books) : View → String → Prop
  | .entries, text => Codec.read? text = some b.listEntries
  | .wallets, text => Codec.read? text = some (b.listWallets.map Wallet.withoutSecret)
  | .products, text => Codec.read? text = some b.listProducts
  | .product id, text => ∃ p, b.product? id = some p ∧ Codec.read? text = some p

/-! ## Steps and views -/

/-- A new product hides no other. -/
theorem product?_addProduct {p : Product} {id : String} {q : Product}
    (live : b.product? id = some q) : (b.addProduct p).product? id = some q := by
  obtain ⟨a, found, rfl⟩ := Option.map_eq_some_iff.mp live
  obtain ⟨there, alive⟩ := Option.filter_eq_some_iff.mp found
  have still : (b.addProduct p).article? id = some a := by
    simp only [article?, addProduct, List.find?_append]
    rw [show b.articles.find? (·.product.id == id) = some a from there]
    rfl
  simp [product?, still, Option.filter, alive]

/-- Writing a product does not change what is found of another. -/
theorem product?_setArticle {id other : String} (different : other ≠ id)
    (change : Article → Article) (keepsId : ∀ a, a.product.id = id → (change a).product.id = id) :
    (b.setArticle id change).product? other = b.product? other := by
  have same : (b.setArticle id change).article? other = b.article? other := by
    unfold article? setArticle
    rw [List.find?_map]
    have selects : ((fun a : Article => a.product.id == other) ∘
        fun a => if a.product.id = id then change a else a) = fun a => a.product.id == other := by
      funext a
      by_cases own : a.product.id = id
      · simp [own, keepsId a own]
      · simp [own]
    rw [selects]
    have kept (found : Option Article) (own : ∀ a, found = some a → a.product.id = other) :
        (found.map fun a => if a.product.id = id then change a else a) = found := by
      cases found with
      | none => rfl
      | some a => simp [own a rfl, different]
    exact kept _ fun a found => by simpa using List.find?_some found
  simp only [product?, same]

/-- A step leaves every view alone that its call does not make stale. -/
theorem Step.shown {call : StoreCall} {reply : Reply} (step : Step b call reply b') {v : View}
    (fresh : v ∉ call.stale) {text : String} (shown : b.Shown v text) : b'.Shown v text := by
  cases step with
  | read => exact shown
  | createWallet =>
    cases v with
    | wallets => exact absurd (by simp [StoreCall.stale]) fresh
    | _ => exact shown
  | insertProduct =>
    cases v with
    | products => exact absurd (by simp [StoreCall.stale]) fresh
    | product id =>
      obtain ⟨p, live, reads⟩ := shown
      exact ⟨p, product?_addProduct (b := b.spend 1 1) live, reads⟩
    | _ => exact shown
  | updateProduct live =>
    cases v with
    | products => exact absurd (by simp [StoreCall.stale]) fresh
    | product other =>
      obtain ⟨p, found, reads⟩ := shown
      refine ⟨p, (product?_setArticle (b := b.spend 0 1) ?_ _ fun _ _ => ?_).trans found, reads⟩
      · rintro rfl
        exact fresh (by simp [StoreCall.stale])
      · exact (product?_eq_some live).2
    | _ => exact shown
  | @deleteProduct _ _ looks =>
    cases v with
    | products => exact absurd (by simp [StoreCall.stale]) fresh
    | product other =>
      obtain ⟨p, found, reads⟩ := shown
      refine ⟨p, (product?_setArticle (b := b.spend 0 looks) ?_
        (fun a => { a with deleted := true }) fun _ own => own).trans found, reads⟩
      rintro rfl
      exact fresh (by simp [StoreCall.stale])
    | _ => exact shown
  | deposit | withdraw =>
    cases v with
    | entries => exact absurd (by simp [StoreCall.stale]) fresh
    | wallets => exact absurd (by simp [StoreCall.stale]) fresh
    | _ => exact shown
  | @purchase user id quantity stock total balance w p look =>
    cases v with
    | product other =>
      obtain ⟨p, found, reads⟩ := shown
      refine ⟨p, (product?_setArticle
        (b := b.post user w.id balance (.purchase id quantity total) (look + 1)) ?_
        (fun a => { a with product := { a.product with stock, updatedAt := b.instant look } })
        fun _ own => own).trans found, reads⟩
      rintro rfl
      exact fresh (by simp [StoreCall.stale])
    | _ => exact absurd (by simp [StoreCall.stale]) fresh

/-! ## Valid times -/

/-- All times in the books are valid. -/
structure IsTimely (b : Books) : Prop where
  wallets : ∀ w ∈ b.wallets, w.createdAt.IsValid ∧ w.updatedAt.IsValid
  articles : ∀ a ∈ b.articles, a.product.IsTimely
  entries : ∀ e ∈ b.entries, e.createdAt.IsValid
  users : ∀ u ∈ b.users, u.IsTimely

namespace IsTimely

theorem setWallet (h : b.IsTimely) {user : String} {change : Wallet → Wallet}
    (keeps : ∀ w ∈ b.wallets, (change w).createdAt.IsValid ∧ (change w).updatedAt.IsValid) :
    (b.setWallet user change).IsTimely where
  wallets w mem := by
    rcases mem_setWallet mem with ⟨v, hv, -, rfl⟩ | ⟨mem, -⟩
    · exact keeps v hv
    · exact h.wallets w mem
  articles := h.articles
  entries := h.entries
  users := h.users

theorem setArticle (h : b.IsTimely) {id : String} {change : Article → Article}
    (keeps : ∀ a ∈ b.articles, (change a).product.IsTimely) :
    (b.setArticle id change).IsTimely where
  wallets := h.wallets
  articles a mem := by
    rcases mem_setArticle mem with ⟨c, hc, -, rfl⟩ | ⟨mem, -⟩
    · exact keeps c hc
    · exact h.articles a mem
  entries := h.entries
  users := h.users

theorem spend (h : b.IsTimely) (ids looks : Nat) : (b.spend ids looks).IsTimely :=
  ⟨h.wallets, h.articles, h.entries, h.users⟩

theorem post (h : b.IsTimely) (user walletId : String) (balance : Money) (kind : EntryKind)
    {look : Nat} (written : b.next.time.IsValid) (committed : (b.instant look).IsValid) :
    (b.post user walletId balance kind look).IsTimely := by
  have moved : ((b.spend 1 (look + 1)).setBalance user balance b.next.time).IsTimely :=
    (h.spend 1 (look + 1)).setWallet fun w mem => ⟨(h.wallets w mem).1, written⟩
  refine ⟨moved.wallets, moved.articles, fun e mem => ?_, moved.users⟩
  rcases List.mem_append.mp mem with mem | mem
  · exact h.entries e mem
  · rw [List.mem_singleton.mp mem]
    exact committed

end IsTimely

/-- Every step takes what it needs from the supply. -/
theorem Step.exists_spend {call : StoreCall} {reply : Reply} (step : Step b call reply b') :
    ∃ ids looks, b'.supply = b.supply.spend ids looks := by
  cases step with
  | read => exact ⟨0, 0, rfl⟩
  | createWallet => exact ⟨1, 1, rfl⟩
  | insertProduct => exact ⟨1, 1, rfl⟩
  | updateProduct => exact ⟨0, 1, rfl⟩
  | @deleteProduct _ _ looks => exact ⟨0, looks, rfl⟩
  | deposit => exact ⟨1, 2, rfl⟩
  | withdraw => exact ⟨1, 2, rfl⟩
  | @purchase _ _ _ _ _ _ _ _ look => exact ⟨1, look + 2, rfl⟩

theorem Step.supply_le {call : StoreCall} {reply : Reply} (step : Step b call reply b') :
    b.supply ≤ b'.supply := by
  obtain ⟨ids, looks, spent⟩ := step.exists_spend
  exact spent ▸ b.supply.le_spend ids looks

/-- Books stay timely as long as their clock gives valid times. -/
theorem Step.stays_timely {call : StoreCall} {reply : Reply} (step : Step b call reply b')
    (clock : b'.supply.IsTimely) (h : b.IsTimely) : b'.IsTimely := by
  have source := step.supply_le.source
  have valid (look : Nat) (taken : b.supply.looks + look < b'.supply.looks) :
      (b.instant look).IsValid := by
    have := clock _ taken
    rwa [source] at this
  cases step with
  | read => exact h
  | createWallet =>
    have now : b.next.time.IsValid := valid 0 (Nat.lt_succ_self _)
    refine ⟨fun w mem => ?_, h.articles, h.entries, h.users⟩
    rcases List.mem_append.mp mem with mem | mem
    · exact h.wallets w mem
    · rw [List.mem_singleton.mp mem]
      exact ⟨now, now⟩
  | insertProduct =>
    have now : b.next.time.IsValid := valid 0 (Nat.lt_succ_self _)
    refine ⟨h.wallets, fun a mem => ?_, h.entries, h.users⟩
    rcases List.mem_append.mp mem with mem | mem
    · exact h.articles a mem
    · rw [List.mem_singleton.mp mem]
      exact ⟨now, now⟩
  | updateProduct live =>
    have now : b.next.time.IsValid := valid 0 (Nat.lt_succ_self _)
    have old := h.articles _ (product?_eq_some live).1
    exact (h.spend 0 1).setArticle fun _ _ => ⟨old.created, now⟩
  | deleteProduct => exact (h.spend 0 _).setArticle fun a mem => h.articles a mem
  | deposit | withdraw =>
    have now : b.next.time.IsValid := valid 0 (Nat.add_lt_add_left Nat.two_pos _)
    exact h.post _ _ _ _ now (valid 1 (Nat.lt_succ_self _))
  | @purchase _ _ _ _ _ _ _ _ look =>
    have now : b.next.time.IsValid := valid 0 (Nat.add_lt_add_left (Nat.succ_pos _) _)
    refine (h.post _ _ _ _ now (valid (look + 1) (Nat.lt_succ_self _))).setArticle fun a mem => ?_
    exact ⟨(h.articles a mem).created, valid look (Nat.add_lt_add_left (by omega) _)⟩

/-! ## Shown answers -/

namespace IsTimely

open Codec

theorem shown_entries (h : b.IsTimely) : b.Shown .entries (write b.listEntries) := by
  have reads : ReadsAs b.listEntries (b.listEntries.map id) :=
    readsAs_list fun e mem => readsAs_entry (h.entries e (List.mem_reverse.mp mem))
  rw [List.map_id] at reads
  exact reads.read?_write

theorem shown_wallets (h : b.IsTimely) : b.Shown .wallets (write b.listWallets) := by
  refine ReadsAs.read?_write (readsAs_list fun w mem => readsAs_wallet ?_)
  obtain ⟨v, hv, rfl⟩ := List.mem_map.mp (List.mem_mergeSort.mp mem)
  rw [Source.mem_walletOrder] at hv
  refine ⟨(h.wallets v hv).1, (h.wallets v hv).2, fun u owner => ?_⟩
  exact h.users u (List.mem_of_find?_eq_some owner)

theorem shown_products (h : b.IsTimely) : b.Shown .products (write b.listProducts) := by
  have reads : ReadsAs b.listProducts (b.listProducts.map id) := by
    refine readsAs_list fun p mem => readsAs_product ?_
    obtain ⟨a, ha, rfl⟩ := List.mem_map.mp (List.mem_mergeSort.mp mem)
    exact h.articles a (Source.mem_articleOrder.mp (List.mem_filter.mp ha).1)
  rw [List.map_id] at reads
  exact reads.read?_write

theorem shown_product (h : b.IsTimely) {id : String} {p : Product}
    (live : b.product? id = some p) : b.Shown (.product id) (write p) :=
  ⟨p, live, (readsAs_product (h.articles _ (product?_eq_some live).1)).read?_write⟩

end IsTimely

end Memory.Books

end WalletLedger
