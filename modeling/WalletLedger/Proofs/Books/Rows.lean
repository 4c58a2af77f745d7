import WalletLedger.Memory.Books
import WalletLedger.Proofs.Stamps
import Mathlib.Data.List.Nodup

/-!
# Rows of the books

What a lookup in the books finds (`wallet?_eq_some`, `product?_eq_some`), and
what a write to some of their rows keeps of the others (`map_setWallet`,
`map_setArticle`). Books are `WellFormed` when their rows were stamped one
after another, no owner has two wallets, and every entry refers to rows that
are there: then a row is found under its identifier or its owner and under no
other (`wallet_unique`, `owner_unique`, `article_unique`).
-/

namespace WalletLedger

/-- The stamp under which a wallet was made. -/
def Wallet.stamp (w : Wallet) : Stamp := ⟨w.id, w.createdAt⟩

/-- The stamp under which an article was made. -/
def Article.stamp (a : Article) : Stamp := ⟨a.product.id, a.product.createdAt⟩

/-- The stamp under which an entry was committed. -/
def Entry.stamp (e : Entry) : Stamp := ⟨e.id, e.createdAt⟩

/-- A row has a like in every list in which the same is kept. -/
theorem exists_of_map_eq {α β : Type} {f : α → β} {rows rows' : List α}
    (same : rows'.map f = rows.map f) {a : α} (mem : a ∈ rows') : ∃ c ∈ rows, f c = f a := by
  have image := List.mem_map_of_mem (f := f) mem
  rwa [same, List.mem_map] at image

namespace Memory.Books

variable {b : Books} {user id : String}

/-! ## Lookups -/

theorem wallet?_eq_some {w : Wallet} (h : b.wallet? user = some w) :
    w ∈ b.wallets ∧ w.userId = user :=
  ⟨List.mem_of_find?_eq_some h, by simpa using List.find?_some h⟩

theorem wallet?_eq_none : b.wallet? user = none ↔ ∀ w ∈ b.wallets, w.userId ≠ user := by
  simp [wallet?]

theorem product?_eq_some {p : Product} (h : b.product? id = some p) :
    ⟨p, false⟩ ∈ b.articles ∧ p.id = id := by
  simp only [product?, Option.map_eq_some_iff, Option.filter_eq_some_iff, article?] at h
  obtain ⟨⟨p, deleted⟩, ⟨found, live⟩, rfl⟩ := h
  obtain rfl : deleted = false := by simpa using live
  exact ⟨List.mem_of_find?_eq_some found, by simpa using List.find?_some found⟩

/-! ## Writes -/

theorem map_setWallet {β : Type} {f : Wallet → β} {change : Wallet → Wallet}
    (h : ∀ w, f (change w) = f w) : (b.setWallet user change).wallets.map f = b.wallets.map f := by
  simp only [setWallet, List.map_map]
  refine List.map_congr_left fun w _ => ?_
  simp only [Function.comp_apply]
  split <;> simp [h]

/-- What a write keeps of the articles that it is about, it keeps of all. -/
theorem map_setArticle_of_own {β : Type} {f : Article → β} {change : Article → Article}
    (h : ∀ a ∈ b.articles, a.product.id = id → f (change a) = f a) :
    (b.setArticle id change).articles.map f = b.articles.map f := by
  simp only [setArticle, List.map_map]
  refine List.map_congr_left fun a mem => ?_
  by_cases own : a.product.id = id
  · simp [own, h a mem own]
  · simp [own]

theorem map_setArticle {β : Type} {f : Article → β} {change : Article → Article}
    (h : ∀ a, f (change a) = f a) : (b.setArticle id change).articles.map f = b.articles.map f :=
  map_setArticle_of_own fun a _ _ => h a

theorem mem_setWallet {change : Wallet → Wallet} {w : Wallet}
    (h : w ∈ (b.setWallet user change).wallets) :
    (∃ v ∈ b.wallets, v.userId = user ∧ w = change v) ∨ w ∈ b.wallets ∧ w.userId ≠ user := by
  obtain ⟨v, hv, rfl⟩ := List.mem_map.mp h
  by_cases own : v.userId = user
  · exact .inl ⟨v, hv, own, by simp [own]⟩
  · exact .inr ⟨by simpa [own] using hv, by simp [own]⟩

theorem mem_setArticle {change : Article → Article} {a : Article}
    (h : a ∈ (b.setArticle id change).articles) :
    (∃ c ∈ b.articles, c.product.id = id ∧ a = change c) ∨ a ∈ b.articles ∧ a.product.id ≠ id := by
  obtain ⟨c, hc, rfl⟩ := List.mem_map.mp h
  by_cases own : c.product.id = id
  · exact .inl ⟨c, hc, own, by simp [own]⟩
  · exact .inr ⟨by simpa [own] using hc, by simp [own]⟩

/-- A write leaves the wallets of others alone. -/
theorem mem_setWallet_of_ne {change : Wallet → Wallet} {w : Wallet} (mem : w ∈ b.wallets)
    (other : w.userId ≠ user) : w ∈ (b.setWallet user change).wallets :=
  List.mem_map.mpr ⟨w, mem, if_neg other⟩

theorem mem_setArticle_of_ne {change : Article → Article} {a : Article} (mem : a ∈ b.articles)
    (other : a.product.id ≠ id) : a ∈ (b.setArticle id change).articles :=
  List.mem_map.mpr ⟨a, mem, if_neg other⟩

/-! ## Well-formed books -/

/-- The rows were stamped one after another, no owner has two wallets, and
every entry refers to a wallet and, for a purchase, to an article. -/
structure WellFormed (b : Books) : Prop where
  wallets : Issued b.supply (b.wallets.map Wallet.stamp)
  articles : Issued b.supply (b.articles.map Article.stamp)
  entries : Issued b.supply (b.entries.map Entry.stamp)
  owners : (b.wallets.map (·.userId)).Nodup
  holders : ∀ e ∈ b.entries, e.walletId ∈ b.wallets.map (·.id)
  goods : ∀ e ∈ b.entries, ∀ p, e.kind.productId? = some p → p ∈ b.articles.map (·.product.id)

namespace WellFormed

theorem walletIds (h : b.WellFormed) : (b.wallets.map (·.id)).Nodup := by
  have := h.wallets.nodup_ids
  rwa [List.map_map] at this

theorem articleIds (h : b.WellFormed) : (b.articles.map (·.product.id)).Nodup := by
  have := h.articles.nodup_ids
  rwa [List.map_map] at this

theorem wallet_unique (h : b.WellFormed) {v w : Wallet} (hv : v ∈ b.wallets) (hw : w ∈ b.wallets)
    (e : v.id = w.id) : v = w :=
  List.inj_on_of_nodup_map h.walletIds hv hw e

theorem owner_unique (h : b.WellFormed) {v w : Wallet} (hv : v ∈ b.wallets) (hw : w ∈ b.wallets)
    (e : v.userId = w.userId) : v = w :=
  List.inj_on_of_nodup_map h.owners hv hw e

theorem article_unique (h : b.WellFormed) {a c : Article} (ha : a ∈ b.articles)
    (hc : c ∈ b.articles) (e : a.product.id = c.product.id) : a = c :=
  List.inj_on_of_nodup_map h.articleIds ha hc e

/-- The wallet of a user is the one with its identifier. -/
theorem id_eq_iff (h : b.WellFormed) {w v : Wallet} (hw : b.wallet? user = some w)
    (hv : v ∈ b.wallets) : v.id = w.id ↔ v.userId = user := by
  obtain ⟨mem, rfl⟩ := wallet?_eq_some hw
  exact ⟨fun e => h.wallet_unique hv mem e ▸ rfl, fun e => h.owner_unique hv mem e ▸ rfl⟩

/-- The article of a live product is the one with its identifier. -/
theorem article_eq (h : b.WellFormed) {p : Product} (hp : b.product? id = some p) {a : Article}
    (ha : a ∈ b.articles) (e : a.product.id = id) : a = ⟨p, false⟩ := by
  obtain ⟨mem, rfl⟩ := product?_eq_some hp
  exact h.article_unique ha mem e

/-- The wallet of a user is also found under its identifier. -/
theorem find_id (h : b.WellFormed) {w : Wallet} (hw : b.wallet? user = some w) :
    b.wallets.find? (·.id == w.id) = some w := by
  rcases found : b.wallets.find? (·.id == w.id) with _ | v
  · exact absurd (beq_self_eq_true w.id) (List.find?_eq_none.mp found w (wallet?_eq_some hw).1)
  · have same : v.id = w.id := by simpa using List.find?_some found
    rw [found, h.wallet_unique (List.mem_of_find?_eq_some found) (wallet?_eq_some hw).1 same]

/-- Writing a wallet under its identifier is writing it under its owner. -/
theorem map_id_eq (h : b.WellFormed) {w : Wallet} (hw : b.wallet? user = some w)
    (change : Wallet → Wallet) :
    (b.wallets.map fun v => if v.id == w.id then change v else v) =
      (b.setWallet user change).wallets := by
  refine List.map_congr_left fun v hv => ?_
  simp only [beq_iff_eq, h.id_eq_iff hw hv]

theorem product?_eq_some_iff (h : b.WellFormed) {p : Product} :
    b.product? id = some p ↔ ⟨p, false⟩ ∈ b.articles ∧ p.id = id := by
  refine ⟨product?_eq_some, fun ⟨mem, own⟩ => ?_⟩
  rcases found : b.article? id with _ | a
  · exact absurd own (by simpa using List.find?_eq_none.mp found _ mem)
  · have own' : a.product.id = id := by simpa using List.find?_some found
    obtain rfl := h.article_unique (List.mem_of_find?_eq_some found) mem (own'.trans own.symm)
    simp [product?, found, Option.filter]

end WellFormed

/-- Books that hold nothing but identity records. -/
def opening (users : List User) (supply : Supply) : Books :=
  ⟨[], [], [], users, supply⟩

theorem opening_wellFormed (users : List User) (supply : Supply) :
    (opening users supply).WellFormed :=
  ⟨.nil _, .nil _, .nil _, List.nodup_nil, by simp [opening], by simp [opening]⟩

end Memory.Books

/-- An identity record. -/
def ada : User := ⟨"u", "ada", "ada@example.com", "hash", true, User.userRole, ⟨0, 0⟩, ⟨0, 0⟩⟩

end WalletLedger
