import WalletLedger.Proofs.Bounds
import WalletLedger.Proofs.Database.Confinement
import WalletLedger.Proofs.Services.Coherence

/-!
# The cache and the store

Services share a store and a cache that loses what it likes, but nothing that
it is told to take away. After any requests, one after another and with any
outcome, what is held under a key is what the store answers, and a view is
answered as if there were no cache (`cache_stays_coherent`). It holds over a
memory store and over a database.
-/

namespace WalletLedger

open Memory Database

section Runs

variable {S : Type} {how : Manner} {holds : S → Books → Prop}
  {serving : Services (StateM (World S)) → Prop} {start w : World S} {b : Books}

/-- What a world may come to: one of some services carries out a request, or
the cache loses texts. -/
inductive Leads (serving : Services (StateM (World S)) → Prop) (start : World S) : World S → Prop
  | start : Leads serving start start
  | served {w : World S} {s : Services (StateM (World S))} (before : Leads serving start w)
    (serves : serving s) (r : Request) : Leads serving start (s.serve r w).2
  | lost {w : World S} {shelf : Shelf} (before : Leads serving start w)
    (kept : ∀ key text, shelf.get? key = some text → w.shelf.get? key = some text) :
    Leads serving start { w with shelf }

theorem Leads.displays (leads : Leads serving start w)
    (serves : ∀ s, serving s → Truthful how holds s.store ∧ s.cache.Forgetful)
    (displays : Displays holds [] start b) : ∃ b', Displays holds [] w b' := by
  induction leads with
  | start => exact ⟨b, displays⟩
  | served before serving r ih =>
    obtain ⟨b, d⟩ := ih
    obtain ⟨truthful, forgetful⟩ := serves _ serving
    exact serve_coheres truthful forgetful r _ b d
  | lost before kept ih =>
    obtain ⟨b, d⟩ := ih
    exact ⟨b, d.held, d.wellFormed, d.timely, fun clock v text fresh found =>
      d.shelved clock v text fresh (kept _ _ found)⟩

/-- Requests to the same services. -/
theorem leads_run {s : Services (StateM (World S))} (serves : serving s) (rs : List Request) :
    Leads serving start (s.run rs start) := by
  induction rs using List.reverseRecOn with
  | nil => exact .start
  | append_singleton rs r ih =>
    rw [Services.run_append]
    exact .served ih serves r

theorem displays_empty (held : holds start.store b) (wf : b.WellFormed) (timely : b.IsTimely)
    (empty : start.shelf = .empty) : Displays holds [] start b := by
  refine ⟨held, wf, fun _ => timely, fun _ v text _ found => ?_⟩
  rw [empty] at found
  cases found

/-- The cache of services is coherent: a text under the key of a view is read as what the
store answers now, and the request for a view has the status and the data that it has without
a cache, both but for secrets. -/
structure Services.Coherent (s : Services (StateM (World S))) (w : World S) : Prop where
  held : ∀ (v : View) (text : String), w.shelf.get? v.key = some text →
    s.store.Shows s.limit w v text
  answered : ∀ v : View,
    (s.serve v.request w).1.map (Outcome.map Reply.withoutSecret) =
      (Services.serve { s with cache := .absent } v.request w).1.map
        (Outcome.map Reply.withoutSecret)

theorem Displays.services_coherent {s : Services (StateM (World S))} (d : Displays holds [] w b)
    (truthful : Truthful how holds s.store) (forgetful : s.cache.Forgetful)
    (clock : b.supply.IsTimely) : s.Coherent w :=
  ⟨fun _ _ found => d.coherent truthful clock _ found, d.transparent truthful forgetful clock⟩

end Runs

/-! ## In memory -/

namespace Memory

theorem store_truthful (pace : Pace) :
    Truthful manner (fun (m : Memory) b => m.books = b) (store pace) where
  faithful := store_faithful pace
  aside limit call w := by
    have ending := perform_ending pace limit call w
    generalize (store pace).perform limit call w = r at ending ⊢
    obtain ⟨r, w'⟩ := r
    cases ending <;> rfl
  read limit call w b held wf reads := by
    rw [perform_eq_alone, perform_read pace limit reads, ← held]
    exact read_alone limit _

/-- Services over a memory store at some pace, with a cache that forgets. -/
def Serving (s : Services (StateM (World Memory))) : Prop :=
  (∃ pace, s.store = store pace) ∧ s.cache.Forgetful

theorem Serving.truthful {s : Services (StateM (World Memory))} (serving : Serving s) :
    Truthful manner (fun m b => m.books = b) s.store ∧ s.cache.Forgetful := by
  obtain ⟨⟨pace, same⟩, forgetful⟩ := serving
  exact ⟨same ▸ store_truthful pace, forgetful⟩

end Memory

/-! ## In a database -/

namespace Database

theorem store_truthful (course : Course) :
    Truthful manner (Readable True) ((storeOn course).map World.onStore) where
  faithful limit call w b readable wf := by
    have spec := store_faithful course limit call w b readable.keeps wf
    have pool := perform_pool course limit call w.store
    rw [perform_onStore] at spec ⊢
    unfold World.onStore at spec ⊢
    rcases run : (storeOn course).perform limit call w.store with ⟨e | reply, db⟩ <;>
      rw [run] at spec pool
    · exact ⟨⟨spec.1, fun _ => (congrArg Pool.acquire pool).trans (readable.acquired trivial)⟩,
        spec.2⟩
    · obtain ⟨b', answered, keeps⟩ := spec
      exact ⟨b', answered, keeps,
        fun _ => (congrArg Pool.acquire pool).trans (readable.acquired trivial)⟩
  aside limit call w := by
    rw [perform_onStore]
    rfl
  read limit call w b readable wf reads := by
    rw [perform_onStore, World.onStore, perform_reads readable wf course limit reads]

/-- Services over a database on some course, with a cache that forgets. -/
def Serving (s : Services (StateM (World Database))) : Prop :=
  (∃ course, s.store = (storeOn course).map World.onStore) ∧ s.cache.Forgetful

theorem Serving.truthful {s : Services (StateM (World Database))} (serving : Serving s) :
    Truthful manner (Readable True) s.store ∧ s.cache.Forgetful := by
  obtain ⟨⟨course, same⟩, forgetful⟩ := serving
  exact ⟨same ▸ store_truthful course, forgetful⟩

end Database

/-! ## Either store -/

/-- Over a memory store with any books whose times are valid, and over a database that keeps such
books and gives connections, any requests are carried out one after another, each at its pace or
on its course, and the cache, which starts empty, loses what it likes. As long as the clock gives
valid times, the cache is coherent. -/
theorem cache_stays_coherent :
    (∀ {start w : World Memory}, start.store.books.WellFormed → start.store.books.IsTimely →
      start.shelf = .empty → Leads Memory.Serving start w → w.store.books.supply.IsTimely →
      ∀ {s : Services (StateM (World Memory))}, Memory.Serving s → s.Coherent w) ∧
    ∀ {start w : World Database} {b : Books}, Keeps start.store b → b.WellFormed → b.IsTimely →
      start.store.pool.acquire = .ok () → start.shelf = .empty →
      Leads Database.Serving start w → w.store.supply.IsTimely →
      ∀ {s : Services (StateM (World Database))}, Database.Serving s → s.Coherent w := by
  refine ⟨fun wf timely empty leads clock s serving => ?_,
    fun keeps wf timely acquired empty leads clock s serving => ?_⟩
  · obtain ⟨b, d⟩ := leads.displays (fun _ => Memory.Serving.truthful)
      (displays_empty rfl wf timely empty)
    obtain ⟨truthful, forgetful⟩ := serving.truthful
    exact d.services_coherent truthful forgetful (d.held ▸ clock)
  · obtain ⟨b, d⟩ := leads.displays (fun _ => Database.Serving.truthful)
      (displays_empty ⟨keeps, fun _ => acquired⟩ wf timely empty)
    obtain ⟨truthful, forgetful⟩ := serving.truthful
    have valid : b.supply.IsTimely := d.held.keeps.supply ▸ clock
    exact d.services_coherent truthful forgetful valid

/-- Wallets are listed after a deposit, and the list is held. -/
theorem listed_wallets_are_coherent :
    (∃ w : World Memory, Leads Memory.Serving ⟨⟨.opening [ada] .start, none⟩, .empty⟩ w ∧
      (w.shelf.get? Cache.walletsKey).isSome ∧
      Services.Coherent ⟨Memory.store .unlimited, .inWorld, ⟨0⟩⟩ w) ∧
    ∃ w : World Database, Leads Database.Serving
        ⟨.opening [⟨ada, false⟩] .start [] true ⟨4, ⟨0⟩, true, false⟩, .empty⟩ w ∧
      (w.shelf.get? Cache.walletsKey).isSome ∧
      Services.Coherent ⟨(storeOn .smooth).map World.onStore, .inWorld, ⟨0⟩⟩ w := by
  have wf := Books.opening_wellFormed [ada] .start
  have timely : (Books.opening [ada] .start).IsTimely := by
    refine ⟨nofun, nofun, nofun, fun u mem => ?_⟩
    obtain rfl := List.mem_singleton.mp mem
    exact ⟨⟨by decide, .inl (by decide)⟩, ⟨by decide, .inl (by decide)⟩⟩
  have memory : Memory.Serving ⟨Memory.store .unlimited, .inWorld, ⟨0⟩⟩ :=
    ⟨⟨_, rfl⟩, Cache.inWorld_forgetful⟩
  have database : Database.Serving ⟨(storeOn .smooth).map World.onStore, .inWorld, ⟨0⟩⟩ :=
    ⟨⟨_, rfl⟩, Cache.inWorld_forgetful⟩
  have inMemory : Leads Memory.Serving ⟨⟨.opening [ada] .start, none⟩, .empty⟩ _ :=
    leads_run memory [.initWallet "u", .deposit "u" ⟨1000⟩, .listWallets]
  have inDatabase : Leads Database.Serving
      ⟨.opening [⟨ada, false⟩] .start [] true ⟨4, ⟨0⟩, true, false⟩, .empty⟩ _ :=
    leads_run database [.initWallet "u", .deposit "u" ⟨1000⟩, .listWallets]
  refine ⟨⟨_, inMemory, rfl, ?_⟩, ⟨_, inDatabase, by decide +kernel, ?_⟩⟩
  · exact cache_stays_coherent.1 wf timely rfl inMemory (by decide +kernel) memory
  · exact cache_stays_coherent.2 (Database.opening_keeps ..) wf timely rfl rfl inDatabase
      (by decide +kernel) database

end WalletLedger
