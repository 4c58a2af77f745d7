import WalletLedger.Proofs.Backstops
import WalletLedger.Proofs.Chronicle
import WalletLedger.Proofs.Services.Dates
import WalletLedger.Proofs.Stocks

/-!
# Timestamps move with the data

Services serve requests over either store, at any pace or on any course, while
faults are armed, guards are put up and users are registered (`Annals`). In
every state that they come to, a wallet was changed last when it was made
exactly as long as it has no entries, and a live product exactly as long as no
update and no purchase of it was answered (`dates_move_with_the_data`). No row
ever loses the time at which it was made, a request that fails changes none, and
one that is answered changes none but those of its user and its product.
-/

namespace WalletLedger

open Memory Database

/-! ## Annals -/

section Annals

variable {S : Type} {serving : Services (StateM (World S)) → Prop}
  {happens : World S → World S → Prop} {start w : World S} {log : List Served}
  {holds : S → Books → Prop} {books? : S → Option Books} {b b' : Books}

/-- Requests that were served from a start, oldest first, with what came of them, while other
things happened in between. -/
inductive Annals (serving : Services (StateM (World S)) → Prop)
    (happens : World S → World S → Prop) (start : World S) : List Served → World S → Prop
  | start : Annals serving happens start [] start
  | served {log : List Served} {w : World S} {s : Services (StateM (World S))}
    (before : Annals serving happens start log w) (serves : serving s) (r : Request) :
    Annals serving happens start (log ++ [⟨r, (s.serve r w).1⟩]) (s.serve r w).2
  | other {log : List Served} {w w' : World S} (before : Annals serving happens start log w)
    (happened : happens w w') : Annals serving happens start log w'

/-- Services work on faithful stores, and what else happens leaves wallets, articles and entries
alone, which a state shows but for the rows of what is deleted. -/
structure Tended (serving : Services (StateM (World S)) → Prop)
    (happens : World S → World S → Prop) (holds : S → Books → Prop)
    (books? : S → Option Books) : Prop where
  serves : ∀ {s}, serving s → (∃ how, Faithful how holds s.store) ∧ s.cache.Aside
  other : ∀ {w w' b}, holds w.store b → b.WellFormed → happens w w' →
    ∃ users supply, holds w'.store { b with users, supply } ∧
      ({ b with users, supply } : Books).WellFormed
  shown : ∀ {x b}, holds x b → ∃ articles users,
    articles.map Article.masked = b.articles.map Article.masked ∧
      books? x = some { b with articles, users }

/-- What every effect keeps of books and the requests that led to them, and what does not depend
on identity records, holds throughout. -/
theorem Annals.keeps {P : List Served → Books → Prop} (annals : Annals serving happens start log w)
    (tended : Tended serving happens holds books?) (held : holds start.store b)
    (solvent : b.Solvent) (first : P [] b)
    (served : ∀ {log b r result b'}, P log b → b.Solvent → r.Effect b result b' →
      P (log ++ [⟨r, result⟩]) b')
    (other : ∀ {log b} users supply, P log b → P log { b with users, supply }) :
    ∃ b, holds w.store b ∧ b.Solvent ∧ P log b := by
  induction annals with
  | start => exact ⟨b, held, solvent, first⟩
  | served before serving r ih =>
    obtain ⟨b, held, solvent, kept⟩ := ih
    obtain ⟨⟨how, faithful⟩, aside⟩ := tended.serves serving
    obtain ⟨⟨b', effect, held'⟩, -⟩ := serve_carries faithful aside r _ b held solvent
    exact ⟨b', held', effect.onward.solvent solvent, served kept solvent effect⟩
  | other before happened ih =>
    obtain ⟨b, held, solvent, kept⟩ := ih
    obtain ⟨users, supply, held', wf⟩ := tended.other held solvent.wellFormed happened
    have bounds := solvent.inBounds
    have inBounds : ({ b with users, supply } : Books).InBounds :=
      ⟨bounds.balances, bounds.prices, bounds.stocks, bounds.amounts, bounds.quantities⟩
    exact ⟨_, held', ⟨⟨wf, solvent.reconciled⟩, inBounds⟩, other users supply kept⟩

/-- Requests to the same services. -/
theorem Annals.run {s : Services (StateM (World S))} (before : Annals serving happens start log w)
    (serves : serving s) (rs : List Request) :
    Annals serving happens start (log ++ List.zipWith Served.mk rs (s.answers rs w))
      (s.run rs w) := by
  induction rs generalizing log w with
  | nil => rwa [List.zipWith_nil_left, List.append_nil]
  | cons r rs ih =>
    have rest := ih (before.served serves r)
    rwa [List.append_assoc] at rest

/-! ## Dates -/

/-- The rows that a request leaves as they were. -/
structure Request.Spares (r : Request) (b : Books) (result : Except Failure (Outcome Reply))
    (b' : Books) : Prop where
  /-- All of them, if it fails. -/
  rejected : ∀ e, result = .error e → b.wallets <+: b'.wallets ∧
    ∀ p, ⟨p, false⟩ ∈ b'.articles ↔ ⟨p, false⟩ ∈ b.articles
  /-- The wallets of others than its user. -/
  wallets : ∀ v ∈ b.wallets, r.user? ≠ some v.userId → v ∈ b'.wallets
  /-- The live products but for the one that it names. -/
  products : ∀ p, ⟨p, false⟩ ∈ b.articles → r.subject? ≠ some p.id → ⟨p, false⟩ ∈ b'.articles

/-- The times of the rows in a state, and what becomes of them. -/
structure KeepsDates (serving : Services (StateM (World S)) → Prop)
    (happens : World S → World S → Prop) (books? : S → Option Books) (log : List Served)
    (w : World S) (b : Books) : Prop where
  shown : books? w.store = some b
  dated : b.Dated (log.filterMap Served.touched?)
  /-- However it goes on, rows keep the times at which they were made. -/
  made : ∀ {later w'}, Annals serving happens w later w' →
    ∃ b', books? w'.store = some b' ∧ b.Made b'
  spared : ∀ s, serving s → ∀ r, ∃ b', books? (s.serve r w).2.store = some b' ∧
    r.Spares b (s.serve r w).1 b'

/-- Nothing but the live products and the stamps of the others tells. -/
theorem Memory.Books.Dated.masked {touched : List String} (h : b.Dated touched)
    {articles : List Article} {users : List User}
    (same : articles.map Article.masked = b.articles.map Article.masked) :
    ({ b with articles, users } : Books).Dated touched where
  wallets := h.wallets
  products p mem := h.products p ((mem_live_iff same).mp mem)
  known id mem := by
    have ids : articles.map (·.product.id) = b.articles.map (·.product.id) :=
      map_masked masked_id same
    show id ∈ articles.map (·.product.id)
    rw [ids]
    exact h.known id mem

/-- Services whose store is tended keep the dates. -/
theorem Annals.keepsDates (annals : Annals serving happens start log w)
    (tended : Tended serving happens holds books?) (held : holds start.store b)
    (solvent : b.Solvent) (dated : b.Dated []) :
    ∃ b, KeepsDates serving happens books? log w b := by
  obtain ⟨b, held, solvent, dated⟩ := annals.keeps
    (P := fun log b => b.Dated (log.filterMap Served.touched?)) tended held solvent dated
    (fun dated solvent effect => effect.dated solvent.wellFormed dated)
    fun _ _ dated => ⟨dated.wallets, dated.products, dated.known⟩
  obtain ⟨articles, users, same, shown⟩ := tended.shown held
  refine ⟨_, shown, dated.masked same, fun onward => ?_, fun s serving r => ?_⟩
  · -- from here on the state is the start, and what is kept is what was made before it
    obtain ⟨b', held', -, made⟩ := onward.keeps (P := fun _ b' => b.Made b') tended held solvent
      (.refl b) (fun made solvent effect => made.trans (effect.made solvent.wellFormed))
      fun _ _ made => ⟨made.wallets, made.articles⟩
    obtain ⟨articles', users', same', shown'⟩ := tended.shown held'
    refine ⟨_, shown', made.wallets, ?_⟩
    show articles.map Article.stamp <+: articles'.map Article.stamp
    rw [map_masked masked_stamp same, map_masked masked_stamp same']
    exact made.articles
  · obtain ⟨⟨how, faithful⟩, aside⟩ := tended.serves serving
    obtain ⟨⟨b', effect, held'⟩, -⟩ := serve_carries faithful aside r w b held solvent
    obtain ⟨articles', users', same', shown'⟩ := tended.shown held'
    refine ⟨_, shown', fun e failed => ?_, fun v mem other => effect.keeps_wallet mem other,
      fun p live other => ?_⟩
    · rw [failed] at effect
      obtain ⟨wallets, articles⟩ := effect.kept_of_error
      refine ⟨wallets, fun p => (mem_live_iff same').trans ?_⟩
      rw [articles]
      exact (mem_live_iff same).symm
    · exact (mem_live_iff same').mpr (effect.keeps_product ((mem_live_iff same).mp live) other)

end Annals

/-! ## Either store -/

/-- Services over a database on any course, with a cache beside it. -/
def Database.OnCourse (s : Services (StateM (World Database))) : Prop :=
  (∃ course, s.store = (storeOn course).map World.onStore) ∧ s.cache.Aside

/-- Arming faults, using the cache and registering users leave the rows in memory alone. -/
theorem Memory.tended : Tended Memory.Undisturbed Memory.conduct.happens
    (fun (m : Memory) b => m.books = b) (fun m => some m.books) where
  serves := by
    rintro s ⟨⟨pace, same⟩, aside⟩
    exact ⟨⟨_, same ▸ Memory.store_faithful pace⟩, aside⟩
  other held wf happened := Memory.follows.other held wf happened
  shown := by
    rintro m b rfl
    exact ⟨_, _, rfl, rfl⟩

/-- So do guards, loosened checks, the pool and registering users in a database. -/
theorem Database.tended : Tended Database.OnCourse
    (fun w w' => Database.conduct.happens w.store w'.store) Keeps Database.books? where
  serves := by
    rintro s ⟨⟨course, same⟩, aside⟩
    exact ⟨⟨_, same ▸ Database.store_faithful course⟩, aside⟩
  other held wf happened := Database.follows.other held wf happened
  shown keeps := keeps.books?_eq

/-- Services serve requests over a memory store at any pace and over a database on any course, each
with any fault, guard or state of its pool at the start and between one request and the next; at
the start there are users, but neither wallets nor products nor entries. In every state that they
come to, wallets without entries and products that nobody touched were changed last when they were
made, and all others later; rows keep the times at which they were made; and a request changes no
row if it fails, and none but those of its user and its product otherwise. -/
theorem dates_move_with_the_data :
    (∀ {users : List User} {supply : Supply} {fault : Option FaultPoint} {shelf : Shelf}
      {log : List Served} {w : World Memory},
      Annals Memory.Undisturbed Memory.conduct.happens ⟨⟨.opening users supply, fault⟩, shelf⟩
        log w →
      KeepsDates Memory.Undisturbed Memory.conduct.happens (fun m => some m.books) log w
        w.store.books) ∧
    ∀ {rows : List UserRow} {supply : Supply} {guards : List Guard} {enforced : Bool}
      {pool : Pool} {shelf : Shelf} {log : List Served} {w : World Database},
      Annals Database.OnCourse (fun w w' => Database.conduct.happens w.store w'.store)
        ⟨.opening rows supply guards enforced pool, shelf⟩ log w →
      ∃ b, KeepsDates Database.OnCourse
        (fun w w' => Database.conduct.happens w.store w'.store) Database.books? log w b := by
  refine ⟨fun annals => ?_, fun annals => ?_⟩
  · obtain ⟨b, dates⟩ := annals.keepsDates Memory.tended rfl (Books.opening_solvent _ _)
      (.opening _ _)
    obtain rfl := Option.some.inj dates.shown
    exact dates
  · exact annals.keepsDates Database.tended (Database.opening_keeps ..)
      (Books.opening_solvent _ _) (.opening _ _)

/-- Whether each wallet and each article was changed last when it was made. -/
def Memory.Books.unchanged (b : Books) : List Bool × List Bool :=
  (b.wallets.map fun w => decide (w.updatedAt = w.createdAt),
    b.articles.map fun a => decide (a.product.updatedAt = a.product.createdAt))

/-- Of two users one buys the second of two products, and asks for more than is left. -/
def secondSold : List Request :=
  [.initWallet "u", .initWallet "v", .deposit "u" ⟨1000⟩, .createProduct tea, .createProduct tea,
    .purchase "u" (Uuid.numbered 5) 1, .withdraw "u" ⟨5000⟩]

/-- The wallet of the buyer and the product that was sold have changed since, in either store. -/
theorem sale_moves_its_dates :
    (∃ log w, Annals Memory.Undisturbed Memory.conduct.happens
        ⟨⟨.opening [ada] .start, none⟩, .empty⟩ log w ∧
      w.store.books.unchanged = ([false, true], [true, false]) ∧
      KeepsDates Memory.Undisturbed Memory.conduct.happens (fun m => some m.books) log w
        w.store.books) ∧
    ∃ log w b, Annals Database.OnCourse (fun w w' => Database.conduct.happens w.store w'.store)
        ⟨.opening [⟨ada, false⟩] .start [] true ⟨4, ⟨0⟩, true, false⟩, .empty⟩ log w ∧
      b.unchanged = ([false, true], [true, false]) ∧
      KeepsDates Database.OnCourse (fun w w' => Database.conduct.happens w.store w'.store)
        Database.books? log w b := by
  have memory : Memory.Undisturbed ⟨Memory.store .unlimited, .inWorld, ⟨0⟩⟩ :=
    ⟨⟨_, rfl⟩, Cache.onShelf_aside _⟩
  have database : Database.OnCourse ⟨(storeOn .smooth).map World.onStore, .inWorld, ⟨0⟩⟩ :=
    ⟨⟨_, rfl⟩, Cache.onShelf_aside _⟩
  have inMemory : Annals Memory.Undisturbed Memory.conduct.happens
      ⟨⟨.opening [ada] .start, none⟩, .empty⟩ _ _ := Annals.start.run memory secondSold
  have inDatabase : Annals Database.OnCourse
      (fun w w' => Database.conduct.happens w.store w'.store)
      ⟨.opening [⟨ada, false⟩] .start [] true ⟨4, ⟨0⟩, true, false⟩, .empty⟩ _ _ :=
    Annals.start.run database secondSold
  obtain ⟨b, dates⟩ := dates_move_with_the_data.2 inDatabase
  refine ⟨⟨_, _, inMemory, by decide +kernel, dates_move_with_the_data.1 inMemory⟩,
    _, _, b, inDatabase, ?_, dates⟩
  have shown : (Database.books? (Services.run ⟨(storeOn .smooth).map World.onStore, .inWorld, ⟨0⟩⟩
      secondSold ⟨.opening [⟨ada, false⟩] .start [] true ⟨4, ⟨0⟩, true, false⟩, .empty⟩).store).map
        Books.unchanged = some ([false, true], [true, false]) := by decide +kernel
  rw [dates.shown] at shown
  exact Option.some.inj shown

end WalletLedger
