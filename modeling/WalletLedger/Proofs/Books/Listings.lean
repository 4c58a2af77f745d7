import WalletLedger.Proofs.Books.Ledger

/-!
# Listings of the books

A list that is sorted is in the order of the sort, and what this order does not
tell apart stays as it was (`pairwise_mergeSort`). So wallets are listed as they
were made, in whatever order their map yields them (`listWallets_eq`), and live
products by name. Those of one name are listed as their map yields them, so as
they were made only if it keeps them so (`Source.IsOrderly`,
`listProducts_inOrder`). A lookup finds what is listed and nothing else
(`wallet?_eq_some_iff`, `product?_eq_some_iff`), and the identity record of a
wallet is the one with the identifier of its owner, as long as no two records
share one (`joined_user_iff`).

Wallets are made by the calls that return them and by no others (`Step.origins_eq`),
and the same goes for products, which stay until a call takes them out
(`Step.catalogued`). So books that held nothing at first list what the answered
calls of the past made.
-/

namespace WalletLedger

/-! ## Stable sorts -/

section Sorting

variable {α : Type} {le : α → α → Bool}

/-- What the order of a sort does not tell apart is sorted as it was. -/
theorem filter_mergeSort (trans : ∀ a b c, le a b → le b c → le a c)
    (total : ∀ a b, le a b || le b a) {alike : α → Bool}
    (level : ∀ a b, alike a → alike b → le a b) (l : List α) :
    (l.mergeSort le).filter alike = l.filter alike := by
  have inOrder : (l.filter alike).Pairwise fun a b => le a b :=
    List.pairwise_of_forall_mem_list fun a ha b hb =>
      level a b (List.mem_filter.mp ha).2 (List.mem_filter.mp hb).2
  have kept : (l.filter alike).Sublist (l.mergeSort le) :=
    List.sublist_mergeSort trans total inOrder List.filter_sublist
  have sub : ((l.filter alike).filter alike).Sublist ((l.mergeSort le).filter alike) :=
    kept.filter alike
  rw [List.filter_filter] at sub
  simp only [Bool.and_self] at sub
  exact (sub.eq_of_length ((List.mergeSort_perm l le).filter alike).length_eq.symm).symm

/-- What comes first in a sorted list comes first in the order of the sort, or it came first
in the list already. -/
theorem pairwise_mergeSort (trans : ∀ a b c, le a b → le b c → le a c)
    (total : ∀ a b, le a b || le b a) {R : α → α → Prop} {l : List α} (before : l.Pairwise R) :
    (l.mergeSort le).Pairwise fun a b => le a b ∧ (le b a → R a b) := by
  refine List.pairwise_iff_forall_sublist.mpr fun {a b} sub => ?_
  have sorted := List.pairwise_iff_forall_sublist.mp (List.pairwise_mergeSort trans total l) sub
  refine ⟨sorted, fun back => ?_⟩
  -- of what is level with `a`, the sorted list holds what the list held
  let alike (c : α) : Bool := le a c && le c a
  have level (c d : α) (hc : alike c) (hd : alike d) : le c d := by
    simp only [alike, Bool.and_eq_true] at hc hd
    exact trans c a d hc.2 hd.1
  have self : le a a := by simpa using total a a
  have both : [a, b].filter alike = [a, b] := by simp [alike, self, sorted, back]
  have kept : [a, b].Sublist (l.filter alike) := by
    rw [← filter_mergeSort trans total level l, ← both]
    exact sub.filter alike
  exact List.pairwise_iff_forall_sublist.mp before (kept.trans List.filter_sublist)

end Sorting

/-! ## What is listed -/

/-- The wallet that a call made and returned. -/
def Answered.wallet? : Answered → Option Wallet
  | ⟨.createWallet _, .wallet w⟩ => some w
  | _ => none

/-- What a wallet keeps from when it was made: its identifier, its owner and its age. -/
def Wallet.origin (w : Wallet) : String × String × Timestamp := (w.id, w.userId, w.createdAt)

/-- The wallets that the answered calls of a past made, oldest first. -/
def walletsMade (past : List Answered) : List Wallet :=
  past.filterMap Answered.wallet?

theorem walletsMade_concat (past : List Answered) (a : Answered) :
    walletsMade (past ++ [a]) = walletsMade past ++ a.wallet?.toList := by
  unfold walletsMade
  rw [List.filterMap_append]
  rcases made : a.wallet? with _ | w <;> simp [made]

/-- The product that a call made and returned. -/
def Answered.product? : Answered → Option Product
  | ⟨.insertProduct _, .product p⟩ => some p
  | _ => none

/-- The products that the answered calls of a past made, oldest first. -/
def productsMade (past : List Answered) : List Product :=
  past.filterMap Answered.product?

theorem productsMade_concat (past : List Answered) (a : Answered) :
    productsMade (past ++ [a]) = productsMade past ++ a.product?.toList := by
  unfold productsMade
  rw [List.filterMap_append]
  rcases made : a.product? with _ | p <;> simp [made]

/-- A product was taken out of the catalog. -/
def TakenOut (past : List Answered) (id : String) : Prop :=
  ⟨.deleteProduct id, .nothing⟩ ∈ past

instance (past : List Answered) (id : String) : Decidable (TakenOut past id) :=
  inferInstanceAs (Decidable (_ ∈ past))

theorem takenOut_concat {past : List Answered} {a : Answered} {id : String} :
    TakenOut (past ++ [a]) id ↔ TakenOut past id ∨ a = ⟨.deleteProduct id, .nothing⟩ := by
  simp only [TakenOut, List.mem_append, List.mem_singleton, eq_comm]

theorem takenOut_concat_other {past : List Answered} {call : StoreCall} {reply : Reply}
    (spares : ∀ id, call ≠ .deleteProduct id) (id : String) :
    TakenOut (past ++ [⟨call, reply⟩]) id ↔ TakenOut past id := by
  rw [takenOut_concat]
  simp [spares]

/-- Articles of one name are yielded in the order in which they were put in. -/
def Source.IsOrderly (s : Source) : Prop :=
  ∀ rows name, (s.articleOrder rows).filter (·.product.name == name) =
    rows.filter (·.product.name == name)

/-- A product is listed before another: by name, and, if their order is kept, then by age. -/
def Product.ListedBefore (orderly : Prop) (p q : Product) : Prop :=
  p.name < q.name ∨ p.name = q.name ∧ (orderly → p.createdAt.Precedes q.createdAt)

namespace Memory.Books

variable {b b' : Books} {call : StoreCall} {reply : Reply} {user id : String}

/-! ## Wallets -/

theorem WellFormed.wallets_inOrder (h : b.WellFormed) :
    b.wallets.Pairwise fun v w => v.createdAt.Precedes w.createdAt := by
  have stamped := List.pairwise_map.mp h.wallets.pairwise_time
  exact stamped

theorem WellFormed.articles_inOrder (h : b.WellFormed) :
    b.articles.Pairwise fun a c => a.product.createdAt.Precedes c.product.createdAt := by
  have stamped := List.pairwise_map.mp h.articles.pairwise_time
  exact stamped

theorem WellFormed.eq_of_createdAt (h : b.WellFormed) {v w : Wallet} (hv : v ∈ b.wallets)
    (hw : w ∈ b.wallets) (le : v.createdAt ≤ w.createdAt) (ge : w.createdAt ≤ v.createdAt) :
    v = w := by
  have apart : b.wallets.Pairwise fun v w => v.createdAt ≤ w.createdAt →
      w.createdAt ≤ v.createdAt → v = w :=
    h.wallets_inOrder.imp fun earlier _ ge => absurd ge earlier.2
  have swapped : b.wallets.Pairwise (flip fun v w => v.createdAt ≤ w.createdAt →
      w.createdAt ≤ v.createdAt → v = w) :=
    apart.imp fun same le ge => (same ge le).symm
  exact apart.forall_of_forall_of_flip (fun _ _ _ _ => rfl) swapped hv hw le ge

/-- Wallets are listed as they were made, in whatever order their map yields them. -/
theorem listWallets_eq (h : b.WellFormed) : b.listWallets = b.wallets.map b.joined := by
  have trans (u v w : Wallet) (first : decide (u.createdAt ≤ v.createdAt))
      (second : decide (v.createdAt ≤ w.createdAt)) : decide (u.createdAt ≤ w.createdAt) := by
    simp only [decide_eq_true_eq] at first second ⊢
    exact Timestamp.le_trans first second
  have total (v w : Wallet) :
      decide (v.createdAt ≤ w.createdAt) || decide (w.createdAt ≤ v.createdAt) := by
    simpa using Timestamp.le_total v.createdAt w.createdAt
  have same : b.listWallets.Perm (b.wallets.map b.joined) :=
    (List.mergeSort_perm ..).trans ((b.supply.source.walletOrder_perm b.wallets).map b.joined)
  refine List.Perm.eq_of_pairwise (fun v w hv hw le ge => ?_)
    (List.pairwise_mergeSort trans total _) (List.pairwise_map.mpr ?_) same
  · obtain ⟨v, there, rfl⟩ := List.mem_map.mp (same.mem_iff.mp hv)
    obtain ⟨w, there', rfl⟩ := List.mem_map.mp hw
    rw [h.eq_of_createdAt there there' (of_decide_eq_true le) (of_decide_eq_true ge)]
  · exact h.wallets_inOrder.imp fun earlier => decide_eq_true earlier.1

theorem WellFormed.wallet?_eq_some_iff (h : b.WellFormed) {w : Wallet} :
    b.wallet? user = some w ↔ w ∈ b.wallets ∧ w.userId = user := by
  refine ⟨wallet?_eq_some, fun ⟨mem, own⟩ => ?_⟩
  rcases found : b.wallet? user with _ | v
  · exact absurd own (wallet?_eq_none.mp found w mem)
  · obtain ⟨there, owned⟩ := wallet?_eq_some found
    rw [h.owner_unique there mem (owned.trans own.symm)]

/-- The wallet that is found for a user is the one that is listed. -/
theorem joined_eq_some_iff (h : b.WellFormed) {w : Wallet} :
    (b.wallet? user).map b.joined = some w ↔ w ∈ b.listWallets ∧ w.userId = user := by
  rw [listWallets_eq h, Option.map_eq_some_iff]
  constructor
  · rintro ⟨v, found, rfl⟩
    obtain ⟨mem, own⟩ := wallet?_eq_some found
    exact ⟨List.mem_map_of_mem mem, own⟩
  · rintro ⟨listed, own⟩
    obtain ⟨v, mem, rfl⟩ := List.mem_map.mp listed
    exact ⟨v, h.wallet?_eq_some_iff.mpr ⟨mem, own⟩, rfl⟩

/-- What a step does to the wallets: it adds the one that it returns, if it made one. -/
theorem Step.origins_eq (h : Step b call reply b') :
    b'.wallets.map Wallet.origin = b.wallets.map Wallet.origin ++
      ((Answered.wallet? ⟨call, reply⟩).map Wallet.origin).toList := by
  have moved (user : String) (balance : Money) (time : Timestamp) :
      (b.setBalance user balance time).wallets.map Wallet.origin = b.wallets.map Wallet.origin :=
    map_setWallet fun _ => rfl
  cases h with
  | read reads =>
    have returned : Answered.wallet? ⟨call, b.answer call⟩ = none := by
      cases call <;> rfl
    rw [returned]
    exact (List.append_nil _).symm
  | createWallet => exact List.map_append
  | deposit => exact (moved ..).trans (List.append_nil _).symm
  | withdraw => exact (moved ..).trans (List.append_nil _).symm
  | purchase => exact (moved ..).trans (List.append_nil _).symm
  | _ => exact (List.append_nil _).symm

/-! ## Identity records -/

/-- A wallet comes with the identity record of its owner, if there is one. -/
theorem joined_user_iff {users : List User} (known : ∀ id, b.user? id = users.find? (·.id == id))
    (unique : (users.map (·.id)).Nodup) {w : Wallet} {u : User} :
    (b.joined w).user = some u ↔ u ∈ users ∧ u.id = w.userId := by
  show b.user? w.userId = some u ↔ _
  rw [known]
  constructor
  · intro found
    exact ⟨List.mem_of_find?_eq_some found, by simpa using List.find?_some found⟩
  · rintro ⟨mem, own⟩
    rcases found : users.find? (·.id == w.userId) with _ | v
    · exact absurd own (by simpa using List.find?_eq_none.mp found u mem)
    · have same : v.id = w.userId := by simpa using List.find?_some found
      have one : v = u := List.inj_on_of_nodup_map unique (List.mem_of_find?_eq_some found) mem
        (same.trans own.symm)
      rw [found, one]

/-- No step changes identity records. -/
theorem Step.users_eq (h : Step b call reply b') : b'.users = b.users := by
  cases h <;> rfl

theorem nodup_putUser (unique : (b.users.map (·.id)).Nodup) (u : User) :
    ((b.putUser u).users.map (·.id)).Nodup := by
  have others : ((b.users.filter (·.id ≠ u.id)).map (·.id)).Nodup :=
    unique.sublist (List.filter_sublist.map _)
  have replaced : u.id ∉ (b.users.filter (·.id ≠ u.id)).map (·.id) := by simp
  show ((b.users.filter (·.id ≠ u.id) ++ [u]).map (·.id)).Nodup
  rw [List.map_append, List.map_singleton, ← List.concat_eq_append]
  exact others.concat replaced

/-! ## Products -/

theorem mem_listProducts {p : Product} : p ∈ b.listProducts ↔ ⟨p, false⟩ ∈ b.articles := by
  simp only [listProducts, List.mem_mergeSort, List.mem_map, List.mem_filter,
    Source.mem_articleOrder]
  constructor
  · rintro ⟨⟨p, deleted⟩, ⟨mem, live⟩, rfl⟩
    obtain rfl : deleted = false := by simpa using live
    exact mem
  · exact fun mem => ⟨⟨p, false⟩, ⟨mem, rfl⟩, rfl⟩

/-- The product that is found under an identifier is the one that is listed. -/
theorem product?_eq_some_iff_listed (h : b.WellFormed) {p : Product} :
    b.product? id = some p ↔ p ∈ b.listProducts ∧ p.id = id := by
  rw [h.product?_eq_some_iff, mem_listProducts]

/-- If their order is kept, articles of one name are yielded by age. -/
theorem WellFormed.articleOrder_inOrder (h : b.WellFormed) :
    (b.supply.source.articleOrder b.articles).Pairwise fun a c =>
      b.supply.source.IsOrderly → c.product.name = a.product.name →
        a.product.createdAt.Precedes c.product.createdAt := by
  refine List.pairwise_iff_forall_sublist.mpr fun {a c} sub orderly same => ?_
  have both : [a, c].filter (·.product.name == a.product.name) = [a, c] := by simp [same]
  have kept : [a, c].Sublist b.articles := by
    rw [← both]
    refine List.Sublist.trans (sub.filter _) ?_
    rw [orderly]
    exact List.filter_sublist
  exact List.pairwise_iff_forall_sublist.mp h.articles_inOrder kept

theorem listProducts_inOrder (h : b.WellFormed) :
    b.listProducts.Pairwise (Product.ListedBefore b.supply.source.IsOrderly) := by
  have live : (((b.supply.source.articleOrder b.articles).filter fun a => !a.deleted).map
      (·.product)).Pairwise fun p q => b.supply.source.IsOrderly → q.name = p.name →
        p.createdAt.Precedes q.createdAt :=
    List.pairwise_map.mpr (h.articleOrder_inOrder.filter _)
  have trans (p q r : Product) (first : decide (p.name ≤ q.name))
      (second : decide (q.name ≤ r.name)) : decide (p.name ≤ r.name) := by
    simp only [decide_eq_true_eq] at first second ⊢
    exact String.le_trans first second
  have total (p q : Product) : decide (p.name ≤ q.name) || decide (q.name ≤ p.name) := by
    simpa using String.le_total p.name q.name
  refine (pairwise_mergeSort trans total live).imp fun {p q} ⟨sorted, stable⟩ => ?_
  simp only [decide_eq_true_eq] at sorted stable
  rcases Decidable.em (q.name ≤ p.name) with back | strict
  · have same := String.le_antisymm sorted back
    exact .inr ⟨same, fun orderly => stable back orderly same.symm⟩
  · exact .inl (String.not_le.mp strict)

theorem nodup_listProducts (h : b.WellFormed) : (b.listProducts.map (·.id)).Nodup := by
  have yielded := b.supply.source.articleOrder_perm b.articles
  have same : (b.listProducts.map (·.id)).Perm
      ((((b.articles.filter fun a => !a.deleted).map (·.product))).map (·.id)) :=
    ((List.mergeSort_perm _ _).trans ((yielded.filter _).map _)).map _
  rw [same.nodup_iff, List.map_map]
  exact h.articleIds.sublist (List.filter_sublist.map _)

/-- The articles of books are the products that were made, and those that were taken out
are deleted. -/
structure Catalogued (past : List Answered) (b : Books) : Prop where
  made : b.articles.map (·.product.id) = (productsMade past).map (·.id)
  gone : ∀ a ∈ b.articles, a.deleted ↔ TakenOut past a.product.id
  known : ∀ id, TakenOut past id → id ∈ b.articles.map (·.product.id)

namespace Catalogued

variable {past : List Answered}

/-- What is listed was made and not taken out. -/
theorem mem_listed (h : b.Catalogued past) :
    id ∈ b.listProducts.map (·.id) ↔
      id ∈ (productsMade past).map (·.id) ∧ ¬ TakenOut past id := by
  rw [← h.made]
  constructor
  · intro listed
    obtain ⟨p, mem, rfl⟩ := List.mem_map.mp listed
    have row : ⟨p, false⟩ ∈ b.articles := mem_listProducts.mp mem
    refine ⟨List.mem_map.mpr ⟨_, row, rfl⟩, fun out => ?_⟩
    exact Bool.false_ne_true ((h.gone _ row).mpr out)
  · rintro ⟨made, kept⟩
    obtain ⟨⟨p, deleted⟩, row, rfl⟩ := List.mem_map.mp made
    have live : deleted = false := by simpa using (h.gone _ row).not.mpr kept
    exact List.mem_map.mpr ⟨p, mem_listProducts.mpr (live ▸ row), rfl⟩

/-- A call that neither makes nor takes out a product, and writes at most fields of one. -/
theorem written (h : b.Catalogued past)
    (other : Answered.product? ⟨call, reply⟩ = none) (spares : ∀ id, call ≠ .deleteProduct id)
    (same : b'.articles.map (fun a => (a.product.id, a.deleted)) =
      b.articles.map fun a => (a.product.id, a.deleted)) :
    b'.Catalogued (past ++ [⟨call, reply⟩]) := by
  have ids : b'.articles.map (·.product.id) = b.articles.map (·.product.id) := by
    have firsts := congrArg (List.map Prod.fst) same
    rwa [List.map_map, List.map_map] at firsts
  refine ⟨?_, fun a mem => ?_, fun id taken => ?_⟩
  · rw [ids, h.made, productsMade_concat, other]
    simp
  · obtain ⟨c, there, alike⟩ := exists_of_map_eq same mem
    obtain ⟨sameId, sameMark⟩ := Prod.mk.inj alike
    rw [takenOut_concat_other spares, ← sameMark, ← sameId]
    exact h.gone c there
  · rw [ids]
    exact h.known id ((takenOut_concat_other spares id).mp taken)

theorem addProduct (h : b.Catalogued past) (wf : b.WellFormed) (fields : NewProduct) :
    ((b.spend 1 1).addProduct (b.newProduct fields)).Catalogued
      (past ++ [⟨.insertProduct fields, .product (b.newProduct fields)⟩]) := by
  have spares (id : String) : StoreCall.insertProduct fields ≠ .deleteProduct id := nofun
  refine ⟨?_, fun a mem => ?_, fun id taken => ?_⟩
  · rw [productsMade_concat, List.map_append, ← h.made]
    exact List.map_append
  · rw [takenOut_concat_other spares]
    rcases List.mem_append.mp mem with old | new
    · exact h.gone a old
    · obtain rfl := List.mem_singleton.mp new
      refine ⟨fun deleted => absurd deleted Bool.false_ne_true, fun taken => ?_⟩
      -- the identifier is new, so nothing of it was taken out before
      exact absurd (h.known _ taken) wf.fresh_article
  · rw [Books.addProduct, List.map_append]
    exact List.mem_append_left _ (h.known id ((takenOut_concat_other spares id).mp taken))

theorem takeOut (h : b.Catalogued past) {p : Product} (live : b.product? id = some p) :
    (b.setArticle id fun a => { a with deleted := true }).Catalogued
      (past ++ [⟨.deleteProduct id, .nothing⟩]) := by
  have ids : (b.setArticle id fun a => { a with deleted := true }).articles.map
      (·.product.id) = b.articles.map (·.product.id) := map_setArticle fun _ => rfl
  have out (other : String) : TakenOut (past ++ [⟨.deleteProduct id, .nothing⟩]) other ↔
      TakenOut past other ∨ id = other := by
    rw [takenOut_concat]
    simp
  refine ⟨?_, fun a mem => ?_, fun other taken => ?_⟩
  · rw [ids, h.made, productsMade_concat]
    simp [Answered.product?]
  · rw [out]
    rcases mem_setArticle mem with ⟨c, -, own, rfl⟩ | ⟨old, other⟩
    · exact ⟨fun _ => .inr own.symm, fun _ => rfl⟩
    · rw [h.gone a old]
      exact ⟨.inl, fun taken => taken.resolve_right fun same => other same.symm⟩
  · rw [ids]
    rcases (out other).mp taken with before | rfl
    · exact h.known other before
    · obtain ⟨row, own⟩ := product?_eq_some live
      exact List.mem_map.mpr ⟨_, row, own⟩

end Catalogued

/-- A step keeps the account of what was made and taken out. -/
theorem Step.catalogued {past : List Answered} (h : Step b call reply b') (wf : b.WellFormed)
    (kept : b.Catalogued past) : b'.Catalogued (past ++ [⟨call, reply⟩]) := by
  cases h with
  | read reads =>
    refine kept.written ?_ ?_ rfl
    · cases call <;> rfl
    · rintro id rfl
      cases reads
  | insertProduct => exact kept.addProduct wf _
  | updateProduct live =>
    refine kept.written rfl (fun _ => nofun) ?_
    refine map_setArticle_of_own fun a mem own => ?_
    rw [wf.article_eq live mem own]
    rfl
  | @deleteProduct _ _ looks live =>
    have spent : (b.spend 0 looks).Catalogued past := ⟨kept.made, kept.gone, kept.known⟩
    exact spent.takeOut live
  | purchase => exact kept.written rfl (fun _ => nofun) (map_setArticle fun _ => rfl)
  | _ => exact kept.written rfl (fun _ => nofun) rfl

end Memory.Books

end WalletLedger
