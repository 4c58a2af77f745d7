import WalletLedger.Database.Ledger
import WalletLedger.Database.Migration
import WalletLedger.Database.Products
import WalletLedger.Database.Users
import WalletLedger.Database.Wallets
import WalletLedger.Proofs.Books.Rows

/-!
# Rows of a database that keeps books

A database `Keeps` books when its tables hold their rows. Two differences are
allowed: the database marks when a product was taken out of the catalog, which
books do not (`Article.masked`), and it may know deleted users besides the
identity records of the books (`SameUsers`). Lookups and listings then find in
the tables what is in the books (`find_live`, `newestFirst_ofEntry` and
their companions).
-/

namespace WalletLedger

/-- An article without the time at which it was taken out of the catalog. -/
def Article.masked (a : Article) : Article :=
  if a.deleted then { a with product := { a.product with updatedAt := a.product.createdAt } } else a

namespace Database

/-- The row of an entry. -/
def EntryRow.ofEntry (e : Entry) : EntryRow := .ofKind e.stamp e.walletId e.kind

/-- The live rows are the identity records of a list, each under its identifier. -/
def SameUsers (rows : List UserRow) (users : List User) : Prop :=
  ∀ id, (rows.find? fun r => r.user.id == id && !r.deleted).map (·.user) = users.find? (·.id == id)

/-- The tables hold the rows of books. -/
structure Keeps (db : Database) (b : Memory.Books) : Prop where
  supply : db.supply.inOrder = b.supply
  users : ∃ rows, db.tables.users = some rows ∧ SameUsers rows b.users
  wallets : db.tables.wallets = some b.wallets
  products : ∃ rows, db.tables.products = some rows ∧
    rows.map Article.masked = b.articles.map Article.masked
  entries : db.tables.entries = some (b.entries.map EntryRow.ofEntry)

namespace Keeps

variable {db : Database} {b : Memory.Books}

theorem walletOrder_eq (h : Keeps db b) : b.supply.source.walletOrder b.wallets = b.wallets :=
  h.supply ▸ rfl

theorem articleOrder_eq (h : Keeps db b) :
    b.supply.source.articleOrder b.articles = b.articles :=
  h.supply ▸ rfl

end Keeps

/-! ## Users -/

/-- The identity records of live rows. -/
def liveUsers (rows : List UserRow) : List User :=
  (rows.filter fun r => !r.deleted).map (·.user)

theorem sameUsers_live (rows : List UserRow) : SameUsers rows (liveUsers rows) := by
  intro id
  unfold liveUsers
  rw [List.find?_map, List.find?_filter]
  congr 2
  funext r
  rw [Bool.eq_iff_iff]
  simp [and_comm]

theorem sameUsers_rows (users : List User) : SameUsers (users.map (⟨·, false⟩)) users := by
  intro id
  rw [List.find?_map, Option.map_map]
  simp [Function.comp_def]

/-! ## Products -/

section Products

variable {rows articles : List Article}

theorem masked_of_live {a : Article} (live : a.deleted = false) : a.masked = a := by
  simp [Article.masked, live]

theorem masked_deleted (a : Article) : a.masked.deleted = a.deleted := by
  unfold Article.masked; split <;> rfl

theorem masked_id (a : Article) : a.masked.product.id = a.product.id := by
  unfold Article.masked; split <;> rfl

theorem masked_price (a : Article) : a.masked.product.price = a.product.price := by
  unfold Article.masked; split <;> rfl

theorem masked_stock (a : Article) : a.masked.product.stock = a.product.stock := by
  unfold Article.masked; split <;> rfl

theorem masked_stamp (a : Article) : a.masked.stamp = a.stamp := by
  unfold Article.masked; split <;> rfl

/-- What is no different for masked articles is equal in rows and articles. -/
theorem map_masked {β : Type} {f : Article → β} (blind : ∀ a, f a.masked = f a)
    (same : rows.map Article.masked = articles.map Article.masked) :
    rows.map f = articles.map f := by
  have unmasked (l : List Article) : (l.map Article.masked).map f = l.map f := by
    rw [List.map_map]
    exact List.map_congr_left fun a _ => blind a
  rw [← unmasked rows, same, unmasked]

/-- The rows have the same live products as the articles. -/
theorem product?_masked {b : Memory.Books} {users : List User}
    (same : rows.map Article.masked = b.articles.map Article.masked) (id : String) :
    ({ b with articles := rows, users } : Memory.Books).product? id = b.product? id := by
  have hidden (o : Option Article) : (o.filter fun a => !a.deleted).map (·.product) =
      ((o.map Article.masked).filter fun a => !a.deleted).map (·.product) := by
    rcases o with _ | ⟨p, _ | _⟩ <;> rfl
  have found (l : List Article) : (l.find? (·.product.id == id)).map Article.masked =
      (l.map Article.masked).find? (·.product.id == id) := by
    rw [List.find?_map]
    simp only [Function.comp_def, masked_id]
  unfold Memory.Books.product? Memory.Books.article?
  rw [hidden, found, same, ← found, ← hidden]

/-- The live rows are the live articles. -/
theorem live_eq (same : rows.map Article.masked = articles.map Article.masked) :
    rows.filter (fun a => !a.deleted) = articles.filter fun a => !a.deleted := by
  have unmasked (l : List Article) :
      (l.map Article.masked).filter (fun a => !a.deleted) = l.filter fun a => !a.deleted := by
    rw [List.filter_map]
    simp only [Function.comp_def, masked_deleted]
    refine (List.map_congr_left fun a ha => ?_).trans (List.map_id _)
    exact masked_of_live (by simpa using (List.mem_filter.mp ha).2)
  rw [← unmasked rows, same, unmasked]

/-- A product is live in the rows exactly if it is in the articles. -/
theorem mem_live_iff (same : rows.map Article.masked = articles.map Article.masked) {p : Product} :
    ⟨p, false⟩ ∈ rows ↔ ⟨p, false⟩ ∈ articles := by
  have row (l : List Article) : ⟨p, false⟩ ∈ l ↔ ⟨p, false⟩ ∈ l.filter fun a => !a.deleted := by
    simp
  rw [row, row articles, live_eq same]

/-- Rows keep to articles when both are changed alike. -/
theorem masked_map {f g : Article → Article}
    (same : rows.map Article.masked = articles.map Article.masked)
    (alike : ∀ r, ∀ a ∈ articles, r.masked = a.masked → (f r).masked = (g a).masked) :
    (rows.map f).map Article.masked = (articles.map g).map Article.masked := by
  induction rows generalizing articles with
  | nil =>
    cases articles with
    | nil => rfl
    | cons => simp at same
  | cons r rows ih =>
    cases articles with
    | nil => simp at same
    | cons a articles =>
      simp only [List.map_cons, List.cons.injEq] at same ⊢
      exact ⟨alike r a List.mem_cons_self same.1,
        ih same.2 fun r c hc => alike r c (List.mem_cons_of_mem _ hc)⟩

/-- The row of a live product. -/
theorem find_live {b : Memory.Books} (wf : b.WellFormed)
    (same : rows.map Article.masked = b.articles.map Article.masked) (id : String) :
    rows.find? (isLive id) = (b.product? id).map fun p => ⟨p, false⟩ := by
  have inArticles : rows.find? (isLive id) = b.articles.find? (isLive id) := by
    have first (l : List Article) : l.find? (isLive id) =
        (l.filter fun a => !a.deleted).find? (·.product.id == id) := by
      rw [List.find?_filter]
      congr 1
      funext a
      rw [Bool.eq_iff_iff]
      simp [isLive, and_comm]
    rw [first rows, live_eq same, ← first]
  rw [inArticles]
  rcases found : b.articles.find? (isLive id) with _ | a
  · rcases live : b.product? id with _ | p
    · rfl
    · obtain ⟨mem, own⟩ := Memory.Books.product?_eq_some live
      exact absurd (List.find?_eq_none.mp found _ mem) (by simp [isLive, own])
  · obtain ⟨own, live⟩ : a.product.id = id ∧ a.deleted = false := by
      simpa [isLive] using List.find?_some found
    obtain ⟨p, deleted⟩ := a
    obtain rfl : deleted = false := live
    rw [wf.product?_eq_some_iff.mpr ⟨List.mem_of_find?_eq_some found, own⟩]
    rfl

theorem eq_of_masked {r : Article} {p : Product} (same : r.masked = Article.masked ⟨p, false⟩) :
    r = ⟨p, false⟩ := by
  have live : r.deleted = false := by rw [← masked_deleted r, same]; rfl
  rwa [masked_of_live live] at same

/-- The row of a live product is the only one of its identifier. -/
theorem find_row {b : Memory.Books} (wf : b.WellFormed)
    (same : rows.map Article.masked = b.articles.map Article.masked) {id : String} {p : Product}
    (live : b.product? id = some p) {selects : Article → Bool} (chosen : selects ⟨p, false⟩)
    (own : ∀ r, selects r → r.product.id = id) : rows.find? selects = some ⟨p, false⟩ := by
  rcases found : rows.find? selects with _ | r
  · have mem := List.mem_of_find?_eq_some ((find_live wf same id).trans (congrArg _ live))
    exact absurd chosen (List.find?_eq_none.mp found _ mem)
  · obtain ⟨a, ha, alike⟩ := exists_of_map_eq same (List.mem_of_find?_eq_some found)
    have ids : a.product.id = r.product.id := by rw [← masked_id a, alike, masked_id]
    have isLive := wf.article_eq live ha (ids.trans (own r (List.find?_some found)))
    rw [eq_of_masked (alike.symm.trans (congrArg _ isLive))]

/-- Changing the row of a live product is changing its article. -/
theorem masked_setArticle {b : Memory.Books} (wf : b.WellFormed)
    (same : rows.map Article.masked = b.articles.map Article.masked) {id : String} {p : Product}
    (live : b.product? id = some p) {selects : Article → Bool} (chosen : selects ⟨p, false⟩)
    (own : ∀ r, selects r → r.product.id = id) {f g : Article → Article}
    (alike : (f ⟨p, false⟩).masked = (g ⟨p, false⟩).masked) :
    (rows.map fun r => if selects r then f r else r).map Article.masked =
      (b.setArticle id g).articles.map Article.masked := by
  refine masked_map same fun r a ha e => ?_
  by_cases mine : a.product.id = id
  · obtain rfl := wf.article_eq live ha mine
    obtain rfl := eq_of_masked e
    rw [if_pos chosen, if_pos mine]
    exact alike
  · have ids : r.product.id = a.product.id := by rw [← masked_id r, e, masked_id]
    have other : ¬ selects r := fun c => mine (ids ▸ own r c)
    rw [if_neg other, if_neg mine]
    exact e

end Products

/-! ## Entries -/

section Entries

variable {es : List Entry}

theorem mapM_map_ok {α β γ ε : Type} {f : β → Except ε γ} {k : α → β} {g : α → γ}
    (h : ∀ a, f (k a) = .ok (g a)) (l : List α) : (l.map k).mapM f = .ok (l.map g) := by
  induction l with
  | nil => rfl
  | cons a l ih =>
    rw [List.map_cons, List.mapM_cons, h, ih]
    rfl

theorem readType_ofEntry (e : Entry) : (EntryRow.ofEntry e).readType = .ok e.kind.type := by
  rcases e with ⟨_, _, _ | _ | _, _⟩ <;> rfl

theorem entry_ofEntry (e : Entry) : (EntryRow.ofEntry e).entry e.kind.type = .ok e := by
  rcases e with ⟨_, _, _ | _ | _, _⟩ <;> rfl

/-- The rows of entries are read back as these entries. -/
theorem entries_ofEntry (es : List Entry) :
    EntryRow.entries (es.map EntryRow.ofEntry) = .ok es := by
  unfold EntryRow.entries
  rw [mapM_map_ok readType_ofEntry]
  show ((es.map EntryRow.ofEntry).zip (es.map (·.kind.type))).mapM _ = _
  rw [List.zip_map', mapM_map_ok (g := id) entry_ofEntry, List.map_id]

theorem newestFirst_ofEntry (inOrder : es.Pairwise fun e f => e.createdAt ≤ f.createdAt) :
    newestFirst (es.map EntryRow.ofEntry) = es.reverse.map EntryRow.ofEntry := by
  unfold newestFirst
  rw [← List.map_reverse]
  refine List.mergeSort_of_pairwise (List.pairwise_map.mpr ?_)
  exact (List.pairwise_reverse.mpr inOrder).imp fun le => decide_eq_true le

end Entries

/-! ## Reading the books -/

/-- The books that the tables of a database hold. -/
def books? (db : Database) : Option Memory.Books := do
  let users ← db.tables.users
  let wallets ← db.tables.wallets
  let articles ← db.tables.products
  let rows ← db.tables.entries
  let entries ← (EntryRow.entries rows).toOption
  return ⟨wallets, articles, entries, liveUsers users, db.supply.inOrder⟩

theorem Keeps.books?_eq {db : Database} {b : Memory.Books} (h : Keeps db b) :
    ∃ articles users, articles.map Article.masked = b.articles.map Article.masked ∧
      db.books? = some { b with articles, users } := by
  obtain ⟨rows, users, -⟩ := h.users
  obtain ⟨articles, products, same⟩ := h.products
  refine ⟨articles, liveUsers rows, same, ?_⟩
  unfold books?
  rw [users, h.wallets, products, h.entries, h.supply]
  show (EntryRow.entries (b.entries.map EntryRow.ofEntry)).toOption.bind _ = _
  rw [entries_ofEntry]
  rfl

/-! ## Opening -/

/-- A migrated database that holds nothing but users. -/
def opening (rows : List UserRow) (supply : Supply) (guards : List Guard) (enforced : Bool)
    (pool : Pool) : Database :=
  ⟨{ Tables.none.complete with users := some rows }, supply, guards, enforced, pool⟩

theorem migrate_blank (supply : Supply) {pool : Pool} (taken : pool.acquire = .ok ())
    (locked : pool.lockForWriting = .ok ()) :
    migrate (blank supply pool) = .ok ((), opening [] supply [] true pool) := by
  have prepared : (blank supply pool).prepareMigration = .ok () := by
    simp [prepareMigration, blank, taken, locked, Tables.none, bind, Except.bind]
  simp only [migrate, bind, StateT.bind, get, getThe, MonadStateOf.get, StateT.get, pure,
    Except.pure, Except.bind, prepared]
  rfl

theorem opening_keeps (rows : List UserRow) (supply : Supply) (guards : List Guard)
    (enforced : Bool) (pool : Pool) :
    Keeps (opening rows supply guards enforced pool) ⟨[], [], [], liveUsers rows, supply.inOrder⟩ :=
  ⟨rfl, ⟨rows, rfl, sameUsers_live rows⟩, rfl, ⟨[], rfl, rfl⟩, rfl⟩

end Database

end WalletLedger
