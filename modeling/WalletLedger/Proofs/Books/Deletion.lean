import WalletLedger.Proofs.Database.Rows
import WalletLedger.Proofs.Memory.Respond

/-!
# Deleted products

A deleted product keeps its row, at the price and with the stock of its last
moment in the catalog (`Retired`). A step writes no product that is not live, so
every step keeps it that way (`Step.retired`). It is not found and not listed,
and a call that asks for it `Misses` its row: such a call is no step, and its
unit of work is refused before any fault can be met (`Misses.unit_eq`).
-/

namespace WalletLedger.Memory.Books

variable {b b' : Books} {call : StoreCall} {reply : Reply} {id : String} {price : Money}
  {stock : Int64}

/-! ## Rows of deleted products -/

/-- A product was deleted: its row is there, and it has this price and this stock. -/
structure Retired (b : Books) (id : String) (price : Money) (stock : Int64) : Prop where
  there : id ∈ b.articles.map (·.product.id)
  row : ∀ a ∈ b.articles, a.product.id = id →
    a.deleted ∧ a.product.price = price ∧ a.product.stock = stock

namespace Retired

theorem product?_eq_none (h : b.Retired id price stock) : b.product? id = none := by
  rcases live : b.product? id with _ | p
  · rfl
  · obtain ⟨mem, own⟩ := product?_eq_some live
    exact absurd (h.row _ mem own).1 Bool.false_ne_true

theorem unlisted (h : b.Retired id price stock) : ∀ p ∈ b.listProducts, p.id ≠ id := by
  rintro p listed rfl
  simp only [listProducts, List.mem_mergeSort, List.mem_map, List.mem_filter] at listed
  obtain ⟨a, ⟨mem, live⟩, rfl⟩ := listed
  simp [(h.row a (Source.mem_articleOrder.mp mem) rfl).1] at live

/-- A live product is another one. -/
theorem ne (h : b.Retired id price stock) {other : String} {p : Product}
    (live : b.product? other = some p) : other ≠ id := by
  rintro rfl
  rw [h.product?_eq_none] at live
  cases live

/-- Rows that differ in the times of deletion only tell the same. -/
theorem ofRows (h : b.Retired id price stock) {articles : List Article} {users : List User}
    (same : articles.map Article.masked = b.articles.map Article.masked) :
    ({ b with articles, users } : Books).Retired id price stock where
  there := by
    rw [Database.map_masked (f := (·.product.id)) Database.masked_id same]
    exact h.there
  row a ha own := by
    obtain ⟨c, hc, alike⟩ := exists_of_map_eq same ha
    have sameId : c.product.id = id := by
      rw [← Database.masked_id, alike, Database.masked_id, own]
    obtain ⟨deleted, priced, stocked⟩ := h.row c hc sameId
    rw [← Database.masked_deleted, ← Database.masked_price, ← Database.masked_stock, ← alike,
      Database.masked_deleted, Database.masked_price, Database.masked_stock]
    exact ⟨deleted, priced, stocked⟩

/-- Nothing but the rows of products tells. -/
theorem ofArticles (h : b.Retired id price stock) (same : b'.articles = b.articles) :
    b'.Retired id price stock :=
  ⟨same ▸ h.there, same ▸ h.row⟩

/-- Writing the row of another product leaves it alone. -/
theorem setArticle (h : b.Retired id price stock) {other : String} {p : Product}
    (live : b.product? other = some p) {change : Article → Article}
    (keepsId : ∀ a, a.product.id = other → (change a).product.id = other) :
    (b.setArticle other change).Retired id price stock where
  there := by
    obtain ⟨a, mem, own⟩ := List.mem_map.mp h.there
    refine List.mem_map.mpr ⟨a, List.mem_map.mpr ⟨a, mem, ?_⟩, own⟩
    exact if_neg fun same => h.ne live (same.symm.trans own)
  row a ha own := by
    rcases mem_setArticle ha with ⟨c, -, written, rfl⟩ | ⟨mem, -⟩
    · exact absurd ((keepsId c written).symm.trans own) (h.ne live)
    · exact h.row a mem own

/-- A new product has a new identifier. -/
theorem addProduct (h : b.Retired id price stock) (wf : b.WellFormed) (fields : NewProduct) :
    ((b.spend 1 1).addProduct (b.newProduct fields)).Retired id price stock where
  there := by
    rw [Books.addProduct, List.map_append]
    exact List.mem_append_left _ h.there
  row a ha own := by
    rcases List.mem_append.mp ha with old | new
    · exact h.row a old own
    · obtain rfl := List.mem_singleton.mp new
      obtain rfl : b.next.id = id := own
      exact absurd h.there wf.fresh_article

end Retired

/-- A product that is deleted was live, and it keeps its price and its stock. -/
theorem Step.retires (h : Step b (.deleteProduct id) reply b') (wf : b.WellFormed) :
    ∃ p, b.product? id = some p ∧ b'.Retired id p.price p.stock := by
  cases h with
  | read reads => cases reads
  | @deleteProduct _ p looks live =>
    obtain ⟨mem, own⟩ := product?_eq_some live
    refine ⟨p, live, ?_, fun a ha same => ?_⟩
    · have ids : (b.setArticle id fun a => { a with deleted := true }).articles.map
          (·.product.id) = b.articles.map (·.product.id) := map_setArticle fun _ => rfl
      show id ∈ (b.setArticle id fun a => { a with deleted := true }).articles.map (·.product.id)
      rw [ids]
      exact List.mem_map.mpr ⟨_, mem, own⟩
    · rcases mem_setArticle ha with ⟨c, hc, written, rfl⟩ | ⟨-, spared⟩
      · obtain rfl := wf.article_eq live hc written
        exact ⟨rfl, rfl, rfl⟩
      · exact absurd same spared

/-- No step brings a deleted product back or writes to its row. -/
theorem Step.retired (h : Step b call reply b') (wf : b.WellFormed)
    (gone : b.Retired id price stock) : b'.Retired id price stock := by
  cases h with
  | insertProduct => exact gone.addProduct wf _
  | updateProduct live =>
    have spent : (b.spend 0 1).Retired id price stock := gone.ofArticles rfl
    exact spent.setArticle live fun _ _ => (product?_eq_some live).2
  | @deleteProduct _ _ looks live =>
    have spent : (b.spend 0 looks).Retired id price stock := gone.ofArticles rfl
    exact spent.setArticle live fun _ own => own
  | @purchase user sold quantity _ total balance w _ look _ live =>
    have posted : (b.post user w.id balance (.purchase sold quantity total) (look + 1)).Retired id
        price stock := gone.ofArticles rfl
    exact posted.setArticle live fun _ own => own
  | _ => exact gone.ofArticles rfl

/-! ## Calls that ask for rows that are not there -/

/-- A call asks for a row that the books do not have, or not live, and has to be
refused for it. A purchase looks for the wallet first. -/
inductive Misses (b : Books) : StoreCall → LedgerError → Prop
  | update {id : String} {fields : NewProduct} (gone : b.product? id = none) :
    Misses b (.updateProduct id fields) (.productNotFound id)
  | delete {id : String} (gone : b.product? id = none) :
    Misses b (.deleteProduct id) (.productNotFound id)
  | purchase {user id : String} {quantity : Int64} {w : Wallet} (holder : b.wallet? user = some w)
      (gone : b.product? id = none) :
    Misses b (.purchase user id quantity) (.productNotFound id)
  | wallet {user id : String} {quantity : Int64} (vacant : b.wallet? user = none) :
    Misses b (.purchase user id quantity) (.walletNotFound user)

namespace Misses

variable {e : LedgerError}

theorem writes (h : b.Misses call e) : ¬ call.isRead := by
  cases h <;> exact Bool.false_ne_true

/-- It comes to a refusal, whether a fault is armed or not. -/
theorem unit_eq (h : b.Misses call e) (armed : Option FaultPoint) :
    Work.unit call b armed = (.error (.refused e), armed) := by
  cases h with
  | update gone =>
    simp only [Work.unit, Work.updateProduct, Work.findProduct, Work.map_apply, Work.bind_apply,
      Work.get_apply, gone]
    rfl
  | delete gone =>
    simp only [Work.unit, Work.deleteProduct, Work.findProduct, Work.map_apply, Work.bind_apply,
      Work.get_apply, gone]
    rfl
  | purchase holder gone =>
    simp only [Work.unit, Work.purchase, Work.findWallet, Work.findProduct, Work.map_apply,
      Work.bind_apply, Work.get_apply, holder, gone, Work.orRefuse, Work.pure_apply]
    rfl
  | wallet vacant =>
    simp only [Work.unit, Work.purchase, Work.findWallet, Work.map_apply, Work.bind_apply,
      Work.get_apply, vacant]
    rfl

/-- No step of the books answers it. -/
theorem unanswered (h : b.Misses call e) : ¬ Step b call reply b' := by
  intro step
  cases h with
  | update gone =>
    cases step with
    | read reads => cases reads
    | updateProduct live => exact absurd (gone.symm.trans live) (by simp)
  | delete gone =>
    cases step with
    | read reads => cases reads
    | deleteProduct live => exact absurd (gone.symm.trans live) (by simp)
  | purchase _ gone =>
    cases step with
    | read reads => cases reads
    | purchase _ live => exact absurd (gone.symm.trans live) (by simp)
  | wallet vacant =>
    cases step with
    | read reads => cases reads
    | purchase holder => exact absurd (vacant.symm.trans holder) (by simp)

end Misses

end WalletLedger.Memory.Books
