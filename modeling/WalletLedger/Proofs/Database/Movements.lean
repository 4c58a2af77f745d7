import WalletLedger.Proofs.Books.Movements
import WalletLedger.Proofs.Database.Atomicity
import WalletLedger.Proofs.Database.Calls

/-!
# Movements in a database

The books that a database keeps may differ from its rows in what they do not
hold. The rows that it `Shows` are exactly those of the books. Whatever keeps
books shows books (`Stage.shows`), and since a movement leaves every user and
every product but its own alone (`perform_spares`), a database that shows books
shows the books after the movement too (`Shows.movement`).
-/

namespace WalletLedger

open Memory

/-- The product that a movement is about. -/
def Movement.product? : Movement → Option String
  | .purchase _ id _ => some id
  | _ => none

namespace Database

variable {clear : Prop} {db db' : Database} {b b' : Books} {m : Movement}

/-! ## The rows as they are -/

/-- A database keeps books, and its rows are exactly those of the books. -/
structure Shows (db : Database) (b : Books) : Prop where
  keeps : Keeps db b
  users : db.tables.users.map liveUsers = some b.users
  products : db.tables.products = some b.articles

theorem Shows.books?_eq (h : Shows db b) : db.books? = some b := by
  obtain ⟨rows, users, same⟩ := Option.map_eq_some_iff.mp h.users
  unfold books?
  rw [users, h.keeps.wallets, h.products, h.keeps.entries, h.keeps.supply]
  show (EntryRow.entries (b.entries.map EntryRow.ofEntry)).toOption.bind _ = _
  rw [entries_ofEntry, same]
  rfl

/-- A database that keeps books shows books, which differ from them in nothing
that calls depend on. -/
theorem Stage.shows (h : Stage clear db b) (wf : b.WellFormed) (inBounds : b.InBounds) :
    ∃ b', Shows db b' ∧ Stage clear db b' ∧ b'.WellFormed ∧ b'.InBounds := by
  obtain ⟨users, foundUsers, -⟩ := h.keeps.users
  obtain ⟨articles, found, same⟩ := h.keeps.products
  have stamps : articles.map Article.stamp = b.articles.map Article.stamp :=
    map_masked masked_stamp same
  have ids : articles.map (·.product.id) = b.articles.map (·.product.id) :=
    map_masked masked_id same
  have keeps : Keeps db { b with articles, users := liveUsers users } :=
    ⟨h.keeps.supply, ⟨users, foundUsers, sameUsers_live users⟩, h.keeps.wallets,
      ⟨articles, found, rfl⟩, h.keeps.entries⟩
  refine ⟨{ b with articles, users := liveUsers users }, ⟨keeps, ?_, found⟩,
    ⟨keeps, h.unguarded, h.free⟩, ?_, ?_⟩
  · rw [foundUsers]
    rfl
  · refine ⟨wf.wallets, ?_, wf.entries, wf.owners, wf.holders, ?_⟩
    · rw [stamps]
      exact wf.articles
    · rw [ids]
      exact wf.goods
  · exact inBounds_masked same inBounds

/-! ## What a movement leaves alone -/

/-- An article, unless it is that of a product. -/
def besides (id? : Option String) (a : Article) : Option Article :=
  if some a.product.id = id? then none else some a

/-- Users, and articles but that of a product, are as they were. -/
structure Spares (id? : Option String) (db db' : Database) : Prop where
  users : db'.tables.users = db.tables.users
  products : db'.tables.products.map (List.map (besides id?)) =
    db.tables.products.map (List.map (besides id?))

theorem spares_frame (id? : Option String) : Frame (Spares id?) where
  refl _ := ⟨rfl, rfl⟩
  trans h h' := ⟨h'.users.trans h.users, h'.products.trans h.products⟩
  supply _ _ := ⟨rfl, rfl⟩
  wallets _ _ := ⟨rfl, rfl⟩
  entries _ _ := ⟨rfl, rfl⟩

theorem perform_spares {course : Course} {limit : Option Duration} {reply : Reply}
    (answered : (storeOn course).perform limit m.call db = (.ok reply, db')) :
    Spares m.product? db db' := by
  have attempt {x : Work Entry} (within : x.Within (Spares m.product?))
      (h : (Reply.entry <$> x.attempt course) db = (.ok reply, db')) :
      Spares m.product? db db' := by
    rw [Attempt.map_apply] at h
    rcases run : x.attempt course db with ⟨e | entry, db₁⟩ <;> rw [run] at h
    · cases congrArg Prod.fst h
    · obtain rfl : db₁ = db' := congrArg Prod.snd h
      exact Work.attempt_ok within run
  cases m with
  | deposit user amount =>
    exact attempt ((Work.within_stepwise (spares_frame _)).deposit amount) answered
  | withdraw user amount =>
    exact attempt ((Work.within_stepwise (spares_frame _)).withdraw amount) answered
  | purchase user id quantity =>
    refine attempt (Work.within_purchase (spares_frame _) user ?_ quantity) answered
    intro db rows stock time found
    refine ⟨rfl, ?_⟩
    rw [found, Option.map_some, Option.map_some, List.map_map]
    refine congrArg some (List.map_congr_left fun a _ => ?_)
    by_cases own : a.product.id = id <;>
      simp [besides, own, Movement.product?]

/-! ## What is shown after a movement -/

/-- Rows that agree with the articles after an entry are these articles: the
product of the entry is live, and no other row was touched. -/
theorem rows_eq {k : EntryKind} {articles articles' rows : List Article}
    (moved : List.Forall₂ (Books.ArticleMoved k) articles articles')
    (live : ∀ a ∈ articles, k.productId? = some a.product.id → a.deleted = false)
    (same : rows.map Article.masked = articles'.map Article.masked)
    (spared : rows.map (besides k.productId?) = articles.map (besides k.productId?)) :
    rows = articles' := by
  induction moved generalizing rows with
  | nil => simpa using same
  | @cons a a' articles articles' one rest ih =>
    rcases rows with _ | ⟨r, rows⟩
    · cases same
    simp only [List.map_cons, List.cons.injEq] at same spared
    have tail := ih (fun c hc => live c (List.mem_cons_of_mem _ hc)) same.2 spared.2
    have head : r = a' := by
      unfold Books.ArticleMoved at one
      by_cases own : k.productId? = some a.product.id <;> simp only [own, ↓reduceIte] at one
      · have alive : a'.deleted = false := by
          rw [one.1]
          exact live a List.mem_cons_self own
        obtain ⟨p, deleted⟩ := a'
        obtain rfl : deleted = false := alive
        exact eq_of_masked same.1
      · have kept : besides k.productId? a = some a := if_neg (Ne.symm own)
        have row : besides k.productId? r = some a := spared.1.trans kept
        simp only [besides, Option.ite_none_left_eq_some, Option.some.injEq] at row
        rw [one, row.2]
    rw [head, tail]

theorem Shows.movement (shows_b : Shows db b) (wf : b.WellFormed) {e : Entry}
    (carried : b.Carried m e b') (keeps : Keeps db' b') (spares : Spares m.product? db db') :
    Shows db' b' := by
  have product : e.kind.productId? = m.product? ∧
      ∀ id, m.product? = some id → ∃ p, b.product? id = some p := by
    have records := carried.kind
    cases m with
    | deposit => exact ⟨by rw [records]; rfl, by simp [Movement.product?]⟩
    | withdraw => exact ⟨by rw [records]; rfl, by simp [Movement.product?]⟩
    | purchase user id quantity =>
      obtain ⟨p, total, live, -, kind⟩ := records
      refine ⟨by rw [kind]; rfl, fun _ eq => ?_⟩
      cases eq
      exact ⟨p, live⟩
  refine ⟨keeps, ?_, ?_⟩
  · rw [spares.users, carried.users]
    exact shows_b.users
  · obtain ⟨rows, found, same⟩ := keeps.products
    have spared := spares.products
    rw [found, shows_b.products, ← product.1] at spared
    rw [found]
    refine congrArg some
      (rows_eq carried.articles (fun a ha own => ?_) same (Option.some.inj spared))
    obtain ⟨p, live⟩ := product.2 _ (product.1.symm.trans own)
    rw [wf.article_eq live ha rfl]

end Database

end WalletLedger
