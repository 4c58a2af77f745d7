import WalletLedger.Proofs.Backstops
import WalletLedger.Proofs.Services.Catalog

/-!
# The catalog stays in order

Services serve requests of any kind over either store, and keep a `Journal` of
them. In every state that they come to, a product is made of sound fields, a
live one is given them, and all others are refused for their first flaw
(`Services.WritesCatalog`). And the articles are kept well by the journal
(`Books.WellKept`): each is a product that was made in it and has the name that
it was given last, without blanks at its ends.
-/

namespace WalletLedger

open Memory Database

/-! ## Journals -/

section Journals

variable {S : Type} {how : Manner} {serving : Services (StateM (World S)) → Prop}
  {start w : World S} {holds : S → Books → Prop} {log : List Served} {b : Books}

/-- Requests that were served from a start, oldest first, with what came of them. Between them
the cache may take and lose what it likes. -/
inductive Journal (serving : Services (StateM (World S)) → Prop) (start : World S) :
    List Served → World S → Prop
  | start : Journal serving start [] start
  | served {log : List Served} {w : World S} {s : Services (StateM (World S))}
    (before : Journal serving start log w) (serves : serving s) (r : Request) :
    Journal serving start (log ++ [⟨r, (s.serve r w).1⟩]) (s.serve r w).2
  | beside {log : List Served} {w : World S} (before : Journal serving start log w)
    (shelf : Shelf) : Journal serving start log { w with shelf }

/-- Requests to the same services. -/
theorem Journal.run {s : Services (StateM (World S))} (before : Journal serving start log w)
    (serves : serving s) (rs : List Request) :
    Journal serving start (log ++ List.zipWith Served.mk rs (s.answers rs w)) (s.run rs w) := by
  induction rs generalizing log w with
  | nil => rwa [List.zipWith_nil_left, List.append_nil]
  | cons r rs ih =>
    have rest := ih (before.served serves r)
    rwa [List.append_assoc] at rest

/-- Articles are kept well by every journal. -/
theorem Journal.kept (journal : Journal serving start log w)
    (serves : ∀ s, serving s → (∃ tempo, Regular how holds tempo s.store) ∧ s.cache.Aside)
    (held : holds start.store b) (solvent : b.Solvent) (kept : b.WellKept []) :
    ∃ b', holds w.store b' ∧ b'.Solvent ∧ b'.WellKept log := by
  induction journal with
  | start => exact ⟨b, held, solvent, kept⟩
  | served before serving r ih =>
    obtain ⟨b, held, solvent, kept⟩ := ih
    obtain ⟨⟨tempo, regular⟩, aside⟩ := serves _ serving
    exact serve_keeps regular aside held solvent kept r
  | beside before shelf ih => exact ih

end Journals

/-! ## Either store -/

theorem Memory.Undisturbed.regular {s : Services (StateM (World Memory))} (h : Undisturbed s) :
    (∃ tempo, Regular Memory.manner (fun (m : Memory) b => m = ⟨b, none⟩) tempo s.store) ∧
      s.cache.Aside := by
  obtain ⟨⟨pace, same⟩, aside⟩ := h
  exact ⟨⟨_, same ▸ Memory.store_regular pace⟩, aside⟩

theorem Database.Undisturbed.regular {s : Services (StateM (World Database))} (h : Undisturbed s) :
    (∃ tempo, Regular Database.manner (Stage True) tempo s.store) ∧ s.cache.Aside := by
  obtain ⟨⟨cutoff, same⟩, aside⟩ := h
  exact ⟨⟨_, same ▸ Database.storeOn_regular cutoff⟩, aside⟩

/-- What a database shows of well kept books is well kept. -/
theorem Database.shown_wellKept {db : Database} {b : Books} (keeps : Keeps db b)
    {log : List Served} (kept : b.WellKept log) :
    ∃ shown, db.books? = some shown ∧ shown.WellKept log ∧ shown.supply = b.supply ∧
      ∀ p, ⟨p, false⟩ ∈ shown.articles ↔ ⟨p, false⟩ ∈ b.articles := by
  obtain ⟨articles, users, same, shown⟩ := keeps.books?_eq
  refine ⟨_, shown, kept.ofLabels (map_masked (fun a => ?_) same), rfl, fun p => mem_live_iff same⟩
  unfold Article.masked
  split <;> rfl

/-- Fields are sound exactly when they have no flaw. Services serve requests over a memory store
without a fault, and over a database without guards whose pool is free; at the start there are
users, but neither wallets nor products nor entries. In every state that they come to the
articles are kept well by the requests that were served, and whoever of them is asked to write
the catalog makes a product of sound fields, gives them to a live one, and refuses everything
else. -/
theorem catalog_stays_in_order :
    (∀ fields : NewProduct, fields.flaw? = none ↔ fields.IsSound) ∧
    (∀ {users : List User} {supply : Supply} {shelf : Shelf} {log : List Served}
      {w : World Memory},
      Journal Memory.Undisturbed ⟨⟨.opening users supply, none⟩, shelf⟩ log w →
      w.store.books.WellKept log ∧
        ∀ s, Memory.Undisturbed s → s.WritesCatalog w w.store.books) ∧
    ∀ {rows : List UserRow} {supply : Supply} {enforced : Bool} {pool : Pool} {shelf : Shelf}
      {log : List Served} {w : World Database}, pool.IsFree →
      Journal Database.Undisturbed ⟨.opening rows supply [] enforced pool, shelf⟩ log w →
      ∃ b, w.store.books? = some b ∧ b.WellKept log ∧
        ∀ s, Database.Undisturbed s → s.WritesCatalog w b := by
  refine ⟨fun _ => NewProduct.flaw?_eq_none, fun {_ _ _ _ w} journal => ?_, fun free journal => ?_⟩
  · obtain ⟨b, held, solvent, kept⟩ := journal.kept (fun _ h => h.regular) rfl
      (Books.opening_solvent _ _) (Books.opening_wellKept _ _)
    have same : w.store.books = b := congrArg Memory.books held
    rw [same]
    refine ⟨kept, fun s undisturbed => ?_⟩
    obtain ⟨⟨tempo, regular⟩, aside⟩ := undisturbed.regular
    exact writesCatalog regular aside held solvent
  · obtain ⟨b, stage, solvent, kept⟩ := journal.kept (fun _ h => h.regular)
      ⟨Database.opening_keeps .., fun _ => rfl, fun _ => free⟩ (Books.opening_solvent _ _)
      (Books.opening_wellKept _ _)
    obtain ⟨shown, there, shownKept, supply, live⟩ := Database.shown_wellKept stage.keeps kept
    refine ⟨shown, there, shownKept, fun s undisturbed => ?_⟩
    obtain ⟨⟨tempo, regular⟩, aside⟩ := undisturbed.regular
    exact (writesCatalog regular aside stage solvent).ofRows supply live

/-- A product is made with blanks around its name, another one with nothing but a blank for a
name, and the first is renamed. -/
def teaRenamed : List Request :=
  [.createProduct ⟨" Tea ", "", ⟨250⟩, 3⟩, .createProduct ⟨"\u3000", "", ⟨250⟩, 3⟩,
    .updateProduct (Supply.start.source.id 0) ⟨"\u2003Green tea\n", "", ⟨300⟩, 0⟩]

/-- The product has its last name then, in either store, and is written on. -/
theorem tea_is_renamed :
    (∃ log w, Journal Memory.Undisturbed ⟨⟨.opening [] .start, none⟩, .empty⟩ log w ∧
      w.store.books.articles.map (·.product.name) = ["Green tea"] ∧
      w.store.books.WellKept log ∧ ∀ s, Memory.Undisturbed s → s.WritesCatalog w w.store.books) ∧
    ∃ log w b, Journal Database.Undisturbed
        ⟨.opening [] .start [] true ⟨4, ⟨0⟩, true, false⟩, .empty⟩ log w ∧
      w.store.books? = some b ∧ b.articles.map (·.product.name) = ["Green tea"] ∧
      b.WellKept log ∧ ∀ s, Database.Undisturbed s → s.WritesCatalog w b := by
  have memory : Memory.Undisturbed ⟨Memory.store .unlimited, .inWorld, ⟨0⟩⟩ :=
    ⟨⟨_, rfl⟩, Cache.onShelf_aside _⟩
  have database : Database.Undisturbed ⟨(storeOn .smooth).map World.onStore, .inWorld, ⟨0⟩⟩ :=
    ⟨⟨none, rfl⟩, Cache.onShelf_aside _⟩
  have inMemory : Journal Memory.Undisturbed ⟨⟨.opening [] .start, none⟩, .empty⟩ _ _ :=
    Journal.start.run memory teaRenamed
  have inDatabase : Journal Database.Undisturbed
      ⟨.opening [] .start [] true ⟨4, ⟨0⟩, true, false⟩, .empty⟩ _ _ :=
    Journal.start.run database teaRenamed
  obtain ⟨kept, writes⟩ := catalog_stays_in_order.2.1 inMemory
  obtain ⟨b, shown, kept', writes'⟩ := catalog_stays_in_order.2.2 ⟨rfl, rfl⟩ inDatabase
  refine ⟨⟨_, _, inMemory, by decide +kernel, kept, writes⟩,
    _, _, b, inDatabase, shown, ?_, kept', writes'⟩
  have names : (Database.books? (Services.run ⟨(storeOn .smooth).map World.onStore, .inWorld, ⟨0⟩⟩
      teaRenamed ⟨.opening [] .start [] true ⟨4, ⟨0⟩, true, false⟩, .empty⟩).store).map
        (fun b => b.articles.map (·.product.name)) = some ["Green tea"] := by decide +kernel
  rw [shown] at names
  exact Option.some.inj names

end WalletLedger
