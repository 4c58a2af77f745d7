import WalletLedger.Proofs.Books.Commutation
import WalletLedger.Proofs.Regularity

/-!
# Independent movements

In every state that requests lead to, of either store, two movements of two users that are not about
the same product come to the same in either order: both are answered as they are, and both stores
show the same wallets, products and histories, up to stamps. Only the entries that they made stand
in the ledger in the order in which they were made (`independent_movements_commute`).
-/

namespace WalletLedger

open Memory Database

section Commute

variable {S : Type} {how : Manner} {holds shows : S → Books → Prop}
  {s : Services (StateM (World S))} {tempo : Movement → Bool → Option Duration → Prop}
  {w : World S} {b : Books} {m x y : Movement}

/-- Two movements come to the same in either order, in a world that shows books: each is answered
alike, and the books that are shown in the end differ in stamps only, and in the order of the
entries that the movements made. -/
structure Services.Commute (s : Services (StateM (World S))) (shows : S → Books → Prop)
    (w : World S) (x y : Movement) : Prop where
  first : (s.serve x.request (s.serve y.request w).2).1.map (Outcome.map Reply.unstamped) =
    (s.serve x.request w).1.map (Outcome.map Reply.unstamped)
  second : (s.serve y.request (s.serve x.request w).2).1.map (Outcome.map Reply.unstamped) =
    (s.serve y.request w).1.map (Outcome.map Reply.unstamped)
  books : ∃ b xy yx, shows w.store b ∧
    shows (s.serve y.request (s.serve x.request w).2).2.store xy ∧
    shows (s.serve x.request (s.serve y.request w).2).2.store yx ∧
    xy.AgreeButStamps yx ∧
    xy.entries = b.entries ++ (entryOf? (s.serve x.request w).1).toList ++
      (entryOf? (s.serve y.request (s.serve x.request w).2).1).toList ∧
    yx.entries = b.entries ++ (entryOf? (s.serve y.request w).1).toList ++
      (entryOf? (s.serve x.request (s.serve y.request w).2).1).toList

/-- Nothing is late, so a movement comes to what the books say. -/
theorem serve_told (regular : Regular how holds tempo s.store) (aside : s.cache.Aside)
    (prompt : ∀ {m answered late}, tempo m answered late → late = none) (held : holds w.store b)
    (solvent : b.Solvent) (m : Movement) :
    (s.serve m.request w).1 = b.told how m ∧
      holds (s.serve m.request w).2.store (b.after how m) := by
  obtain ⟨late, timed, comes⟩ :=
    movement_comes regular aside held solvent.wellFormed solvent.inBounds m
  have inTime (m' : Movement) (same : m.request.movement? = some m') (flaw : m'.flaw? = none) :
      late = none := by
    obtain rfl : m = m' := by cases m <;> exact Option.some.inj same
    exact prompt (timed flaw)
  rwa [Books.fulfil_of_prompt inTime] at comes

theorem Services.commute (regular : Regular how holds tempo s.store) (aside : s.cache.Aside)
    (prompt : ∀ {m answered late}, tempo m answered late → late = none)
    (shown : ∀ {store b}, holds store b → ∃ articles users, shows store { b with articles, users } ∧
      articles.map Article.masked = b.articles.map Article.masked)
    (held : holds w.store b) (solvent : b.Solvent) (apart : x.Apart y) : s.Commute shows w x y := by
  have serve {w : World S} {b : Books} := serve_told (w := w) (b := b) regular aside prompt
  obtain ⟨tellsx, heldx⟩ := serve held solvent x
  obtain ⟨tellsy, heldy⟩ := serve held solvent y
  obtain ⟨tellsxy, heldxy⟩ := serve heldx (Books.after_solvent how solvent x) y
  obtain ⟨tellsyx, heldyx⟩ := serve heldy (Books.after_solvent how solvent y) x
  obtain ⟨_, _, shows_b, -⟩ := shown held
  obtain ⟨articles, _, showsxy, same⟩ := shown heldxy
  obtain ⟨articles', _, showsyx, same'⟩ := shown heldyx
  have agree : ((b.after how x).after how y).AgreeButStamps ((b.after how y).after how x) :=
    Books.after_agree solvent apart
  have untimed {l l' : List Article} (same : l.map Article.masked = l'.map Article.masked) :
      l.map Article.untimed = l'.map Article.untimed :=
    map_masked (fun a => by unfold Article.masked; split <;> rfl) same
  refine ⟨?_, ?_, _, _, _, shows_b, showsxy, showsyx, ⟨agree.wallets, ?_, agree.history⟩, ?_, ?_⟩
  · rw [tellsyx, tellsx]
    exact Books.told_after solvent apart.symm
  · rw [tellsxy, tellsy]
    exact Books.told_after solvent apart
  · exact (untimed same).trans (agree.articles.trans (untimed same').symm)
  · rw [tellsx, tellsxy]
    show ((b.after how x).after how y).entries = _
    rw [Books.after_entries (Books.after_solvent how solvent x), Books.after_entries solvent]
  · rw [tellsy, tellsyx]
    show ((b.after how y).after how x).entries = _
    rw [Books.after_entries (Books.after_solvent how solvent y), Books.after_entries solvent]

end Commute

/-- Requests lead from a memory store without wallets, products and entries, in which no fault is
armed and nothing is late, or from a migrated database without them, with a free pool, no guards
and a deadline that is not reached. Movements that are apart commute wherever they lead. -/
theorem independent_movements_commute :
    (∀ {pace : Pace}, pace.IsQuick → ∀ (cache : Cache (StateM Shelf)) (limit : Duration)
      (users : List User) (supply : Supply) (shelf : Shelf) (rs : List Request) {x y : Movement},
      x.Apart y →
      let s : Services (StateM (World Memory)) :=
        ⟨Memory.store pace, cache.map World.onShelf, limit⟩
      s.Commute (fun m b => m = ⟨b, none⟩) (s.run rs ⟨⟨.opening users supply, none⟩, shelf⟩) x y) ∧
    ∀ {deadline : Option Duration}, Cutoff.ofDeadline deadline = none →
      ∀ {pool : Pool}, pool.IsFree → ∀ (cache : Cache (StateM Shelf)) (limit : Duration)
      (rows : List UserRow) (supply : Supply) (enforced : Bool) (shelf : Shelf)
      (rs : List Request) {x y : Movement}, x.Apart y →
      let s : Services (StateM (World Database)) :=
        ⟨(Database.store deadline).map World.onStore, cache.map World.onShelf, limit⟩
      s.Commute (fun db b => db.books? = some b)
        (s.run rs ⟨.opening rows supply [] enforced pool, shelf⟩) x y := by
  refine ⟨fun {pace} quick cache limit users supply shelf rs x y apart => ?_,
    fun {deadline} unhurried pool free cache limit rows supply enforced shelf rs x y apart => ?_⟩
  · intro s
    have aside : s.cache.Aside := Cache.onShelf_aside cache
    obtain ⟨b, held, solvent⟩ := Memory.run_solvent pace cache limit users supply shelf rs
    refine Services.commute (Memory.store_regular pace) aside (fun late => ?_) (fun held => ?_) held
      solvent apart
    · exact late.trans (quick.lateness _)
    · exact ⟨_, _, held, rfl⟩
  · intro s
    have aside : s.cache.Aside := Cache.onShelf_aside cache
    obtain ⟨b, held, solvent⟩ :=
      Database.run_solvent deadline free cache limit rows supply enforced shelf rs
    refine Services.commute (Database.store_regular deadline) aside (fun late => ?_)
      (fun stage => ?_) held solvent apart
    · rw [late, unhurried]
      rfl
    · obtain ⟨articles, users, same, books⟩ := stage.keeps.books?_eq
      exact ⟨articles, users, books, same⟩

/-- A deposit of one user and a purchase of another one, who has money, over either store. -/
theorem deposit_and_purchase_commute :
    let rs : List Request := [.createProduct ⟨"Tea", "", ⟨300⟩, 5⟩, .initWallet "u",
      .initWallet "v", .deposit "v" ⟨1000⟩]
    let x : Movement := .deposit "u" ⟨500⟩
    let y : Movement := .purchase "v" (Uuid.numbered 1) 2
    Pace.unlimited.IsQuick ∧ Cutoff.ofDeadline none = none ∧ Pool.IsFree ⟨4, ⟨0⟩, true, false⟩ ∧
    x.Apart y ∧
    (let s : Services (StateM (World Memory)) :=
      ⟨Memory.store .unlimited, Cache.shelf.map World.onShelf, ⟨0⟩⟩
    s.Commute (fun m b => m = ⟨b, none⟩) (s.run rs ⟨⟨.opening [ada] .start, none⟩, .empty⟩) x y) ∧
    let s : Services (StateM (World Database)) :=
      ⟨(Database.store none).map World.onStore, Cache.shelf.map World.onShelf, ⟨0⟩⟩
    s.Commute (fun db b => db.books? = some b)
      (s.run rs ⟨.opening [⟨ada, false⟩] .start [] true ⟨4, ⟨0⟩, true, false⟩, .empty⟩) x y := by
  intro rs x y
  have apart : x.Apart y := ⟨by decide, nofun⟩
  exact ⟨Pace.unlimited_isQuick, rfl, ⟨rfl, rfl⟩, apart,
    independent_movements_commute.1 Pace.unlimited_isQuick .shelf ⟨0⟩ [ada] .start .empty rs apart,
    independent_movements_commute.2 rfl ⟨rfl, rfl⟩ .shelf ⟨0⟩ [⟨ada, false⟩] .start true .empty rs
      apart⟩

end WalletLedger
