import WalletLedger.Proofs.Books.Isolation

/-!
# When rows were made and when they were changed last

A row is made under a stamp, and whoever changes it gives it a later time. So a
wallet was changed last when it was made exactly as long as it has no entries,
and a live product exactly as long as nothing touched it: no update and no
purchase of it was answered (`Books.Dated`). Every step keeps this
(`Step.dated`). No step takes a row away or changes when it was made
(`Step.made`), and none changes the rows of others than it names
(`Step.keeps_wallet`, `Step.keeps_product`).
-/

namespace WalletLedger

namespace StoreCall

/-- The product that a call changes and keeps. -/
def touches? : StoreCall → Option String
  | .updateProduct id _ | .purchase _ id _ => some id
  | _ => none

/-- The product that a call names. -/
def subject? : StoreCall → Option String
  | .productById id | .updateProduct id _ | .deleteProduct id | .purchase _ id _ => some id
  | _ => none

end StoreCall

namespace Memory.Books

variable {b b' : Books} {call : StoreCall} {reply : Reply} {user id : String}
  {touched : List String}

/-- The times of last change in books, some of whose products were touched. -/
structure Dated (touched : List String) (b : Books) : Prop where
  wallets : ∀ w ∈ b.wallets, w.updatedAt = w.createdAt ↔ ∀ e ∈ b.entries, e.walletId ≠ w.id
  products : ∀ p, ⟨p, false⟩ ∈ b.articles → (p.updatedAt = p.createdAt ↔ p.id ∉ touched)
  /-- Only products that are there were touched. -/
  known : ∀ id ∈ touched, id ∈ b.articles.map (·.product.id)

/-! ## Changes of rows -/

namespace Dated

theorem opening (users : List User) (supply : Supply) : (opening users supply).Dated [] :=
  ⟨nofun, nofun, nofun⟩

/-- A new wallet has no entries. -/
theorem addWallet (h : b.Dated touched) (wf : b.WellFormed) (user : String) :
    ((b.spend 1 1).addWallet (b.newWallet user)).Dated touched where
  wallets w mem := by
    rcases List.mem_append.mp mem with old | new
    · exact h.wallets w old
    · obtain rfl := List.mem_singleton.mp new
      exact iff_of_true rfl fun e there => wf.walletId_ne_next there
  products := h.products
  known := h.known

/-- A new product was never touched. -/
theorem addProduct (h : b.Dated touched) (wf : b.WellFormed) (fields : NewProduct) :
    ((b.spend 1 1).addProduct (b.newProduct fields)).Dated touched where
  wallets := h.wallets
  products p mem := by
    rcases List.mem_append.mp mem with old | new
    · exact h.products p old
    · cases List.mem_singleton.mp new
      exact iff_of_true rfl fun there => wf.fresh_article (h.known _ there)
  known id there := by
    rw [Books.addProduct, List.map_append]
    exact List.mem_append_left _ (h.known id there)

/-- The wallet of an entry that is committed changes with it, and no other does. -/
theorem post (h : b.Dated touched) (wf : b.WellFormed) {w : Wallet}
    (holder : b.wallet? user = some w) (balance : Money) (kind : EntryKind)
    (look : Nat) : (b.post user w.id balance kind look).Dated touched where
  wallets v mem := by
    rcases mem_setWallet (b := b.spend 1 (look + 1)) mem with ⟨c, there, own, rfl⟩ | ⟨old, other⟩
    · -- the holder has an entry now, and a time after its own
      have earlier : c.createdAt ≠ b.next.time :=
        wf.wallets.ne_instant (List.mem_map_of_mem there) 0
      refine iff_of_false (Ne.symm earlier) fun none => none (b.newEntry w.id kind look) ?_ ?_
      · exact List.mem_append_right _ (List.mem_singleton_self _)
      · exact ((wf.id_eq_iff holder there).mpr own).symm
    · have apart : w.id ≠ v.id := fun same => other ((wf.id_eq_iff holder old).mp same.symm)
      refine (h.wallets v old).trans ⟨fun none e mem => ?_, fun none e mem => ?_⟩
      · rcases List.mem_append.mp mem with before | new
        · exact none e before
        · rwa [List.mem_singleton.mp new]
      · exact none e (List.mem_append_left _ mem)
  products := h.products
  known := h.known

/-- A product that is changed at a later time is touched, and no other is. -/
theorem touch (h : b.Dated touched) (there : id ∈ b.articles.map (·.product.id))
    {time : Timestamp} (earlier : ∀ a ∈ b.articles, a.product.createdAt ≠ time)
    {change : Article → Article} (written : ∀ a ∈ b.articles, a.product.id = id →
      (change a).stamp = a.stamp ∧ (change a).product.updatedAt = time) :
    (b.setArticle id change).Dated (touched ++ [id]) where
  wallets := h.wallets
  products p mem := by
    rcases mem_setArticle mem with ⟨c, there, own, eq⟩ | ⟨old, other⟩
    · -- what was touched keeps the time at which it was made, and loses that of its last change
      obtain ⟨stamp, changed⟩ := written c there own
      rw [← eq] at stamp changed
      have made : p.createdAt = c.product.createdAt := congrArg Stamp.time stamp
      have named : p.id = id := (congrArg Stamp.id stamp).trans own
      refine iff_of_false (fun same => earlier c there ?_) (not_not_intro ?_)
      · exact made.symm.trans (same.symm.trans changed)
      · exact List.mem_append_right _ (List.mem_singleton.mpr named)
    · rw [h.products p old, List.mem_append, List.mem_singleton, or_iff_left other]
  known other mem := by
    have ids : (b.setArticle id change).articles.map (·.product.id) =
        b.articles.map (·.product.id) :=
      map_setArticle_of_own fun a mem own => congrArg Stamp.id (written a mem own).1
    rw [ids]
    rcases List.mem_append.mp mem with old | new
    · exact h.known other old
    · rwa [List.mem_singleton.mp new]

/-- A product that is deleted is no longer live, and the others are as they were. -/
theorem delete (h : b.Dated touched) (id : String) :
    (b.setArticle id fun a => { a with deleted := true }).Dated touched where
  wallets := h.wallets
  products p mem := by
    rcases mem_setArticle mem with ⟨c, -, -, eq⟩ | ⟨old, -⟩
    · cases congrArg Article.deleted eq
    · exact h.products p old
  known other there := by
    have ids : (b.setArticle id fun a => { a with deleted := true }).articles.map (·.product.id) =
        b.articles.map (·.product.id) := map_setArticle fun _ => rfl
    rw [ids]
    exact h.known other there

end Dated

/-! ## Steps -/

/-- A step dates the rows that it changes. -/
theorem Step.dated (h : Step b call reply b') (wf : b.WellFormed) (dated : b.Dated touched) :
    b'.Dated (touched ++ call.touches?.toList) := by
  have earlier (look : Nat) (a : Article) (mem : a ∈ b.articles) :
      a.product.createdAt ≠ b.instant look :=
    wf.articles.ne_instant (List.mem_map_of_mem mem) look
  have there {id : String} {p : Product} (live : b.product? id = some p) :
      id ∈ b.articles.map (·.product.id) :=
    List.mem_map.mpr ⟨_, product?_eq_some live⟩
  have untouched {b' : Books} (dated : b'.Dated touched) : b'.Dated (touched ++ []) := by
    rwa [List.append_nil]
  cases h with
  | read reads =>
    have none : call.touches? = none := by
      cases call <;> first | rfl | cases reads
    rw [none]
    exact untouched dated
  | createWallet => exact untouched (dated.addWallet wf _)
  | insertProduct => exact untouched (dated.addProduct wf _)
  | updateProduct live =>
    refine Dated.touch (b := b.spend 0 1) ⟨dated.wallets, dated.products, dated.known⟩
      (there live) (earlier 0) fun a mem own => ?_
    rw [wf.article_eq live mem own]
    exact ⟨rfl, rfl⟩
  | @deleteProduct _ _ looks =>
    refine untouched (Dated.delete (b := b.spend 0 looks) ?_ _)
    exact ⟨dated.wallets, dated.products, dated.known⟩
  | deposit holder => exact untouched (dated.post wf holder _ _ 1)
  | withdraw holder => exact untouched (dated.post wf holder _ _ 1)
  | @purchase _ _ _ _ _ _ _ _ look holder live =>
    exact (dated.post wf holder _ _ (look + 1)).touch (there live) (earlier look)
      fun _ _ _ => ⟨rfl, rfl⟩

/-- Rows that were made stay, with the times at which they were made. -/
structure Made (b b' : Books) : Prop where
  wallets : b.wallets.map Wallet.stamp <+: b'.wallets.map Wallet.stamp
  articles : b.articles.map Article.stamp <+: b'.articles.map Article.stamp

theorem Made.refl (b : Books) : b.Made b :=
  ⟨List.prefix_refl _, List.prefix_refl _⟩

theorem Made.trans {c : Books} (h : b.Made b') (later : b'.Made c) : b.Made c :=
  ⟨h.wallets.trans later.wallets, h.articles.trans later.articles⟩

theorem Made.of_eq (wallets : b'.wallets.map Wallet.stamp = b.wallets.map Wallet.stamp)
    (articles : b'.articles.map Article.stamp = b.articles.map Article.stamp) : b.Made b' :=
  ⟨wallets ▸ List.prefix_refl _, articles ▸ List.prefix_refl _⟩

theorem Step.made (h : Step b call reply b') (wf : b.WellFormed) : b.Made b' := by
  have posted (user : String) (balance : Money) :
      (b.setBalance user balance b.next.time).wallets.map Wallet.stamp =
        b.wallets.map Wallet.stamp := map_setWallet fun _ => rfl
  cases h with
  | read => exact .refl b
  | createWallet =>
    refine ⟨?_, List.prefix_refl _⟩
    rw [addWallet, List.map_append]
    exact List.prefix_append _ _
  | insertProduct =>
    refine ⟨List.prefix_refl _, ?_⟩
    rw [addProduct, List.map_append]
    exact List.prefix_append _ _
  | updateProduct live =>
    refine .of_eq rfl (map_setArticle_of_own fun a mem own => ?_)
    rw [wf.article_eq live mem own]
    rfl
  | deleteProduct => exact .of_eq rfl (map_setArticle fun _ => rfl)
  | deposit | withdraw => exact .of_eq (posted _ _) rfl
  | purchase => exact .of_eq (posted _ _) (map_setArticle fun _ => rfl)

/-- A step changes no wallet but that of its user. -/
theorem Step.keeps_wallet (h : Step b call reply b') {w : Wallet} (mem : w ∈ b.wallets)
    (other : call.user? ≠ some w.userId) : w ∈ b'.wallets := by
  have apart {user : String} (names : call.user? = some user) : w.userId ≠ user :=
    fun same => other (names.trans (congrArg some same.symm))
  cases h with
  | createWallet => exact List.mem_append_left _ mem
  | deposit | withdraw | purchase => exact mem_setWallet_of_ne mem (apart rfl)
  | _ => exact mem

/-- A step changes no product but that it names. -/
theorem Step.keeps_product (h : Step b call reply b') {p : Product}
    (live : ⟨p, false⟩ ∈ b.articles) (other : call.subject? ≠ some p.id) :
    ⟨p, false⟩ ∈ b'.articles := by
  have apart {id : String} (names : call.subject? = some id) : p.id ≠ id :=
    fun same => other (names.trans (congrArg some same.symm))
  cases h with
  | insertProduct => exact List.mem_append_left _ live
  | updateProduct | deleteProduct | purchase =>
    exact mem_setArticle_of_ne live (apart rfl)
  | _ => exact live

end Memory.Books

end WalletLedger
