import WalletLedger.Proofs.Atomicity
import WalletLedger.Proofs.Catalog
import WalletLedger.Proofs.Coherence
import WalletLedger.Proofs.Services.Identity
import WalletLedger.Proofs.Stocks

/-!
# Product identity is exact

Services share a store and a cache, which starts empty, forgets what it likes
and is told of every write, or holds nothing at all. Whatever they are asked,
in the end a product is found under its identifier and under no other text
(`product_identity_is_exact`). What the cache answers for a product is what the
books say (`Displays.honest`), since it shows products under their own keys; so
the check in front of the store and the store itself decide.
-/

namespace WalletLedger

open Memory Database

/-! ## Caches -/

section Caches

variable {S : Type} {cache : Cache (StateM (World S))}

/-- Services that use one cache. -/
def Sharing (cache : Cache (StateM (World S))) (serving : Services (StateM (World S)) → Prop)
    (s : Services (StateM (World S))) : Prop :=
  serving s ∧ s.cache = cache

/-- A cache that services share: one that forgets what it likes but not while it is looking for
something else, or none. -/
def Cache.IsShared (cache : Cache (StateM (World S))) : Prop :=
  cache.Forgetful ∧ cache.LooksAside ∨ cache = .absent

theorem Cache.inWorld_isShared : (Cache.inWorld : Cache (StateM (World S))).IsShared :=
  .inl ⟨Cache.inWorld_forgetful, fun _ => rfl⟩

theorem Cache.IsShared.looksAside (shared : cache.IsShared) : cache.LooksAside := by
  rcases shared with ⟨-, looksAside⟩ | rfl
  · exact looksAside
  · exact fun _ => rfl

end Caches

/-! ## Runs -/

section Runs

variable {S : Type} {how : Manner} {holds : S → Books → Prop}
  {undisturbed : Services (StateM (World S)) → Prop} {cache : Cache (StateM (World S))}
  {s : Services (StateM (World S))} {start w : World S} {b b' : Books}

/-- A store that holds several books finds the same products in them. -/
theorem Truthful.existing_eq (truthful : Truthful how holds s.store) (held : holds w.store b)
    (wf : b.WellFormed) (held' : holds w.store b') (wf' : b'.WellFormed) (id : String) :
    b.existing id = b'.existing id :=
  congrArg Prod.fst ((truthful.existingProduct held wf id).symm.trans
    (truthful.existingProduct held' wf' id))

/-- A cache that shows the views of books is honest about their products. -/
theorem Displays.honest (d : Displays holds [] w b) (truthful : Truthful how holds s.store)
    (forgetful : s.cache.Forgetful) (clock : b.supply.IsTimely) : s.Honest w b := by
  intro id p recalled
  obtain ⟨text, answered, reads⟩ := Option.bind_eq_some_iff.mp recalled
  obtain ⟨named, shown⟩ :=
    d.shelved clock (.product id) text List.not_mem_nil (forgetful.answered answered)
  obtain ⟨p', found, reads'⟩ := (reveals_product truthful id).held b text named shown
  obtain rfl : p = p' := Option.some.inj (reads.symm.trans reads')
  exact found

theorem honest_absent (absent : s.cache = .absent) : s.Honest w b := by
  intro id p recalled
  rw [absent] at recalled
  cases recalled

/-- Wherever requests lead that are told of to one cache, services tell the products apart. -/
theorem Leads.identifies (leads : Leads (Sharing cache undisturbed) start w)
    (serves : ∀ s, undisturbed s →
      ((∃ tempo, Regular how holds tempo s.store) ∧ s.cache.Aside) ∧ Restores holds s.store)
    (shared : cache.IsShared) (supply : S → Supply)
    (supplied : ∀ {x b}, holds x b → b.supply = supply x) (held : holds start.store b)
    (solvent : b.Solvent) (timely : b.IsTimely) (empty : start.shelf = .empty) :
    ∃ b', holds w.store b' ∧ ((supply w.store).NamesUuids → (supply w.store).IsTimely →
      ∀ s, Sharing cache undisturbed s → s.Identifies w b') := by
  have regular (s : Services (StateM (World S))) (h : Sharing cache undisturbed s) := serves s h.1
  obtain ⟨b', held', solvent'⟩ := leads.solvent
    (fun s h => ⟨(regular s h).1.1.choose_spec.faithful, (regular s h).1.2⟩) held solvent
  refine ⟨b', held', fun uuids clock s sharing => ?_⟩
  obtain ⟨⟨⟨tempo, own⟩, aside⟩, restores⟩ := regular s sharing
  refine WalletLedger.identifies own restores aside (sharing.2 ▸ shared.looksAside) held' solvent'
    (supplied held' ▸ uuids) ?_
  rcases shared with ⟨forgetful, -⟩ | absent
  · -- the store may hold other books than the cache shows, but they list the same products
    obtain ⟨b₁, d⟩ := leads.displays
      (fun s h => ⟨(regular s h).1.1.choose_spec.toTruthful, h.2 ▸ forgetful⟩)
      (displays_empty held solvent.wellFormed timely empty)
    intro id p recalled
    rw [own.existing_eq held' solvent'.wellFormed d.held d.wellFormed]
    exact d.honest own.toTruthful (sharing.2 ▸ forgetful) (supplied d.held ▸ clock) id p recalled
  · exact honest_absent (sharing.2.trans absent)

end Runs

/-! ## Either store -/

theorem Memory.Undisturbed.restores {s : Services (StateM (World Memory))} (h : Undisturbed s) :
    Restores (fun (m : Memory) b => m = ⟨b, none⟩) s.store := by
  intro limit call w b e held wf failed
  obtain ⟨⟨tempo, regular⟩, -⟩ := h.regular
  have spec := regular.faithful limit call w b held wf
  rcases run : s.store.perform limit call w with ⟨r, w'⟩
  rw [run] at spec failed
  obtain rfl : r = .error e := failed
  exact spec.1.trans held.symm

theorem Database.Undisturbed.restores {s : Services (StateM (World Database))}
    (h : Undisturbed s) : Restores (Stage True) s.store := by
  intro limit call w b e _ _ failed
  obtain ⟨⟨cutoff, same⟩, -⟩ := h
  rw [same, perform_onStore] at failed ⊢
  exact perform_atomic _ limit call w.store e _ (Prod.ext failed rfl)

/-- A text that is taken for a UUID is a canonical identifier or another spelling of one. Services
serve requests over a memory store without a fault, and over a database without guards whose pool
is free; at the start there are users, whose times are valid, but neither wallets nor products nor
entries, and nothing is cached. All services use one cache: one that forgets what it likes, or
none. In every state that they come to, as long as the identifiers given out are UUIDs in lower
case with hyphens and the clock gives valid times, a product is found under its identifier, and
under no other text. -/
theorem product_identity_is_exact :
    (∀ text, Uuid.isSpelling text → ∃ id, Uuid.IsCanonical id ∧
      (text = id ∨ Uuid.Respells text id)) ∧
    (∀ {cache : Cache (StateM (World Memory))} {users : List User} {supply : Supply}
      {w : World Memory}, cache.IsShared → (∀ u ∈ users, u.IsTimely) →
      Leads (Sharing cache Memory.Undisturbed) ⟨⟨.opening users supply, none⟩, .empty⟩ w →
      w.store.books.supply.NamesUuids → w.store.books.supply.IsTimely →
      ∀ s, Sharing cache Memory.Undisturbed s → s.Identifies w w.store.books) ∧
    ∀ {cache : Cache (StateM (World Database))} {rows : List UserRow} {supply : Supply}
      {enforced : Bool} {pool : Pool} {w : World Database},
      cache.IsShared → (∀ row ∈ rows, row.user.IsTimely) → pool.IsFree →
      Leads (Sharing cache Database.Undisturbed) ⟨.opening rows supply [] enforced pool, .empty⟩ w →
      w.store.supply.NamesUuids → w.store.supply.IsTimely →
      ∃ b, w.store.books? = some b ∧
        ∀ s, Sharing cache Database.Undisturbed s → s.Identifies w b := by
  refine ⟨fun _ => Uuid.isCanonical_or_respells,
    fun {_ _ _ w} shared timely leads uuids clock s sharing => ?_,
    fun {_ rows _ _ _ w} shared timely free leads uuids clock => ?_⟩
  · obtain ⟨b, held, identifies⟩ := leads.identifies
      (fun _ h => ⟨h.regular, h.restores⟩) shared (fun m => m.books.supply)
      (fun held => by rw [held]) rfl (Books.opening_solvent _ _) ⟨nofun, nofun, nofun, timely⟩ rfl
    obtain rfl : w.store.books = b := congrArg Memory.books held
    exact identifies uuids clock s sharing
  · have timely : ∀ u ∈ liveUsers rows, u.IsTimely := by
      intro u mem
      obtain ⟨row, kept, rfl⟩ := List.mem_map.mp mem
      exact timely row (List.mem_filter.mp kept).1
    obtain ⟨b, held, identifies⟩ := leads.identifies
      (fun _ h => ⟨h.regular, h.restores⟩) shared (fun db => db.supply.inOrder)
      (fun held => held.keeps.supply.symm)
      ⟨Database.opening_keeps .., fun _ => rfl, fun _ => free⟩ (Books.opening_solvent _ _)
      ⟨nofun, nofun, nofun, timely⟩ rfl
    obtain ⟨articles, users, same, shown⟩ := held.keeps.books?_eq
    exact ⟨_, shown, fun s sharing =>
      (identifies uuids clock s sharing).ofRows (fun p => mem_live_iff same) rfl⟩

/-- The identifier of the third row with capital digits, without hyphens, in a URN, in braces, and
with blanks around it. -/
def respelledTea : List String :=
  ["5E9A7C31-D2F4-4B68-9D05-000000000003", "5e9a7c31d2f44b689d05000000000003",
    "urn:uuid:5e9a7c31-d2f4-4b68-9d05-000000000003",
    "\x7b5e9a7c31-d2f4-4b68-9d05-000000000003\x7d", " 5e9a7c31-d2f4-4b68-9d05-000000000003\n"]

theorem respells_of_mem_respelledTea {text : String} (mem : text ∈ respelledTea) :
    Uuid.Respells text (Uuid.numbered 3) := by
  have named : (Uuid.numbered 3) = "5e9a7c31-d2f4-4b68-9d05-000000000003" := by decide +kernel
  have digits : Uuid.AreDigits "5e9a7c31d2f44b689d05000000000003".toList :=
    ⟨by decide, by decide⟩
  have capitals : Uuid.AreDigits "5E9A7C31D2F44B689D05000000000003".toList :=
    ⟨by decide, by decide⟩
  rw [named]
  simp only [respelledTea, List.mem_cons, List.not_mem_nil, or_false] at mem
  rcases mem with rfl | rfl | rfl | rfl | rfl
  · exact ⟨by decide, [], [], _, .hyphenated, rfl, rfl, capitals, by decide, by decide⟩
  · exact ⟨by decide, [], [], _, .simple, rfl, rfl, digits, by decide, by decide⟩
  · exact ⟨by decide, [], [], _, .urn, rfl, rfl, digits, by decide, by decide⟩
  · exact ⟨by decide, [], [], _, .braced, rfl, rfl, digits, by decide, by decide⟩
  · exact ⟨by decide, [' '], ['\n'], _, .hyphenated, by decide, by decide, digits, by decide,
      by decide⟩

/-- A product is made and read by a user with a wallet. -/
def teaRead : List Request :=
  [.initWallet "u", .deposit "u" ⟨1000⟩, .createProduct tea, .getProduct (Uuid.numbered 3)]

/-- The product is cached then, and its identifier respelled names nothing in either store. -/
theorem respelled_tea_is_overlooked :
    (∃ w : World Memory,
      Leads (Sharing .inWorld Memory.Undisturbed) ⟨⟨.opening [ada] .start, none⟩, .empty⟩ w ∧
      (w.shelf.get? (Cache.productKey (Uuid.numbered 3))).isSome ∧
      ∃ p, ⟨p, false⟩ ∈ w.store.books.articles ∧ p.id = (Uuid.numbered 3) ∧
        ∀ text ∈ respelledTea, ∀ r, r.subject? = some text →
          Services.Overlooks ⟨Memory.store .unlimited, .inWorld, ⟨0⟩⟩ w p r) ∧
    ∃ w : World Database,
      Leads (Sharing .inWorld Database.Undisturbed)
        ⟨.opening [⟨ada, false⟩] .start [] true ⟨4, ⟨0⟩, true, false⟩, .empty⟩ w ∧
      (w.shelf.get? (Cache.productKey (Uuid.numbered 3))).isSome ∧
      ∃ b, w.store.books? = some b ∧ ∃ p, ⟨p, false⟩ ∈ b.articles ∧ p.id = (Uuid.numbered 3) ∧
        ∀ text ∈ respelledTea, ∀ r, r.subject? = some text →
          Services.Overlooks ⟨(storeOn .smooth).map World.onStore, .inWorld, ⟨0⟩⟩ w p r := by
  have timely : ada.IsTimely := ⟨⟨by decide, .inl (by decide)⟩, ⟨by decide, .inl (by decide)⟩⟩
  have memory : Sharing .inWorld Memory.Undisturbed ⟨Memory.store .unlimited, .inWorld, ⟨0⟩⟩ :=
    ⟨⟨⟨_, rfl⟩, Cache.onShelf_aside _⟩, rfl⟩
  have database : Sharing .inWorld Database.Undisturbed
      ⟨(storeOn .smooth).map World.onStore, .inWorld, ⟨0⟩⟩ :=
    ⟨⟨⟨none, rfl⟩, Cache.onShelf_aside _⟩, rfl⟩
  have inMemory : Leads (Sharing .inWorld Memory.Undisturbed)
      ⟨⟨.opening [ada] .start, none⟩, .empty⟩ _ := leads_run memory teaRead
  have inDatabase : Leads (Sharing .inWorld Database.Undisturbed)
      ⟨.opening [⟨ada, false⟩] .start [] true ⟨4, ⟨0⟩, true, false⟩, .empty⟩ _ :=
    leads_run database teaRead
  have identified := product_identity_is_exact.2.1 Cache.inWorld_isShared
    (by simpa using timely) inMemory (by decide +kernel) (by decide +kernel) _ memory
  obtain ⟨b, shown, identifies⟩ := product_identity_is_exact.2.2 Cache.inWorld_isShared
    (by simpa using timely) ⟨rfl, rfl⟩ inDatabase (by decide +kernel) (by decide +kernel)
  have lists {b : Books} (rows : b.articles.map (fun a => (a.product.id, a.deleted)) =
      [(Uuid.numbered 3, false)]) : b.Lists (Uuid.numbered 3) := by
    obtain ⟨⟨p, deleted⟩, only, pair⟩ := List.map_eq_singleton_iff.mp rows
    obtain ⟨named, live⟩ := Prod.mk.inj pair
    exact ⟨p, only ▸ live ▸ List.mem_singleton_self _, named⟩
  have rows : (Database.books? (Services.run ⟨(storeOn .smooth).map World.onStore, .inWorld, ⟨0⟩⟩
      teaRead ⟨.opening [⟨ada, false⟩] .start [] true ⟨4, ⟨0⟩, true, false⟩, .empty⟩).store).map
        (fun b => b.articles.map fun a => (a.product.id, a.deleted)) =
      some [(Uuid.numbered 3, false)] := by decide +kernel
  rw [shown] at rows
  obtain ⟨p, live, named⟩ := lists (b := (Services.run ⟨Memory.store .unlimited, .inWorld, ⟨0⟩⟩
    teaRead ⟨⟨.opening [ada] .start, none⟩, .empty⟩).store.books) (by decide +kernel)
  obtain ⟨p', live', named'⟩ := lists (Option.some.inj rows)
  refine ⟨⟨_, inMemory, by decide +kernel, p, live, named, fun text mem => ?_⟩,
    _, inDatabase, by decide +kernel, b, shown, p', live', named', fun text mem => ?_⟩
  · exact identified.respelled p live text (named ▸ respells_of_mem_respelledTea mem)
  · exact (identifies _ database).respelled p' live' text
      (named' ▸ respells_of_mem_respelledTea mem)

end WalletLedger
