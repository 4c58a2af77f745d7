import WalletLedger.Proofs.Database.Atomicity
import WalletLedger.Proofs.Database.Calls
import WalletLedger.Proofs.Memory.Store
import WalletLedger.Proofs.Services.Moves
import Mathlib.Data.List.Induction

/-!
# Bounds of what the services do

Whatever is asked of the services, in any order and with any arguments, no
balance and no stock goes below zero, every price, amount and quantity stays
above it, a purchase costs the price of its moment, and no sum leaves the range
of its word (`services_stay_in_bounds`). It holds in memory and in a database,
with any fault, guard, deadline or cache.
-/

namespace WalletLedger

open Memory

section Runs

variable {S : Type}

/-- The world after a request. -/
def Services.after (s : Services (StateM (World S))) (w : World S) (r : Request) : World S :=
  (s.serve r w).2

/-- The world after requests. -/
def Services.run (s : Services (StateM (World S))) (rs : List Request) (w : World S) : World S :=
  rs.foldl s.after w

/-- What the services answer to requests one after another. -/
def Services.answers (s : Services (StateM (World S))) :
    List Request → World S → List (Except Failure (Outcome Reply))
  | [], _ => []
  | r :: rs, w => (s.serve r w).1 :: s.answers rs (s.serve r w).2

variable {s : Services (StateM (World S))} {start : World S} {holds : S → Books → Prop}

theorem Services.run_append (rs : List Request) (r : Request) :
    s.run (rs ++ [r]) start = s.after (s.run rs start) r := by
  simp [Services.run]

/-- An entry was committed by one of the requests `rs`, and is the purchase of
a product that was live at that moment, at the price that it had then. The
books of a state are what `shows` relates it to. -/
def Services.Priced (s : Services (StateM (World S))) (shows : S → Books → Prop) (start : World S)
    (rs : List Request) (e : Entry) (id : String) (quantity : Int64) (amount : Money) : Prop :=
  ∃ earlier r later before after p, rs = earlier ++ r :: later ∧
    shows (s.run earlier start).store before ∧ e ∉ before.entries ∧
    shows (s.run (earlier ++ [r]) start).store after ∧ e ∈ after.entries ∧
    before.product? id = some p ∧ amount.value = quantity.toInt * p.price.value

/-- After any requests a state shows books in bounds, in which every balance is
what the entries add up to and every purchase was made at the price of its
moment; and no further request is stopped by arithmetic. -/
def Services.StaysInBounds (s : Services (StateM (World S))) (shows : S → Books → Prop)
    (start : World S) : Prop :=
  ∀ rs : List Request, ∃ b, shows (s.run rs start).store b ∧ b.InBounds ∧ b.Reconciled ∧
    (∀ e ∈ b.entries, ∀ id quantity amount, e.kind = .purchase id quantity amount →
      s.Priced shows start rs e id quantity amount) ∧
    ∀ r, Runs (s.serve r (s.run rs start)).1

/-- A purchase was made at the price of its moment, whatever is requested later. -/
theorem Services.Priced.append {rs : List Request} {e : Entry} {id : String} {quantity : Int64}
    {amount : Money} (h : s.Priced holds start rs e id quantity amount) (r : Request) :
    s.Priced holds start (rs ++ [r]) e id quantity amount := by
  obtain ⟨earlier, r', later, before, after, p, rfl, moment⟩ := h
  exact ⟨earlier, r', later ++ [r], before, after, p, by simp, moment⟩

/-- Books stay solvent in every run, and each purchase in them had its price. -/
theorem Services.run_solvent {how : Manner} (faithful : Faithful how holds s.store)
    (aside : s.cache.Aside) {b : Books} (held : holds start.store b) (solvent : b.Solvent)
    (empty : b.entries = []) (rs : List Request) :
    ∃ b, holds (s.run rs start).store b ∧ b.Solvent ∧
      ∀ e ∈ b.entries, ∀ id quantity amount, e.kind = .purchase id quantity amount →
        s.Priced holds start rs e id quantity amount := by
  induction rs using List.reverseRecOn with
  | nil => exact ⟨b, held, solvent, by simp [empty]⟩
  | append_singleton rs r ih =>
    obtain ⟨b, held, solvent, priced⟩ := ih
    obtain ⟨b', onward, held'⟩ := (serve_moves faithful aside r _ b held solvent).1
    rw [Services.run_append]
    refine ⟨b', held', onward.solvent solvent, fun e he id quantity amount kind => ?_⟩
    rcases onward.new_entry solvent.wellFormed he with old | ⟨new, priced⟩
    · exact (priced e old id quantity amount kind).append r
    · obtain ⟨p, live, cost⟩ := priced id quantity amount kind
      refine ⟨rs, r, [], b, b', p, rfl, held, new, ?_, he, live, cost⟩
      rwa [Services.run_append]

theorem Services.staysInBounds {how : Manner} (faithful : Faithful how holds s.store)
    (aside : s.cache.Aside) {b : Books} (held : holds start.store b) (solvent : b.Solvent)
    (empty : b.entries = []) :
    s.StaysInBounds holds start := by
  intro rs
  obtain ⟨b, held, solvent, priced⟩ := s.run_solvent faithful aside held solvent empty rs
  refine ⟨b, held, solvent.inBounds, solvent.reconciled, priced, fun r => ?_⟩
  exact (serve_moves faithful aside r _ b held solvent).2

/-- Books are shown up to what their bounds and sums do not depend on. -/
theorem Services.StaysInBounds.shown {shows : S → Books → Prop}
    (h : s.StaysInBounds holds start)
    (shown : ∀ s b, holds s b → ∃ articles users, shows s { b with articles, users } ∧
      articles.map Article.masked = b.articles.map Article.masked) :
    s.StaysInBounds shows start := by
  intro rs
  obtain ⟨b, held, inBounds, reconciled, priced, runs⟩ := h rs
  obtain ⟨articles, users, shows_b, same⟩ := shown _ b held
  refine ⟨_, shows_b, Database.inBounds_masked same inBounds, reconciled,
    fun e he id quantity amount kind => ?_, runs⟩
  obtain ⟨earlier, r, later, before, after, p, eq, held, new, held', mem, live, cost⟩ :=
    priced e he id quantity amount kind
  obtain ⟨articles, users, shows_before, same⟩ := shown _ before held
  obtain ⟨_, _, shows_after, -⟩ := shown _ after held'
  refine ⟨earlier, r, later, _, _, p, eq, shows_before, new, shows_after, mem, ?_, cost⟩
  rwa [Database.product?_masked same]

end Runs

/-! ## In memory -/

theorem Memory.store_faithful (pace : Pace) :
    Faithful manner (fun (m : Memory) b => m.books = b) (Memory.store pace) := by
  rintro limit call w b rfl wf
  have ending := perform_ending pace limit call w
  generalize (store pace).perform limit call w = r at ending ⊢
  obtain ⟨r, w'⟩ := r
  cases ending with
  | late => exact ⟨rfl, .inl rfl⟩
  | faulted => exact ⟨rfl, .inl rfl⟩
  | refused result => exact ⟨rfl, .inr result⟩
  | answered result => exact ⟨_, result, rfl⟩

/-! ## In a database -/

namespace Database

theorem store_faithful (course : Course) :
    Faithful manner Keeps ((storeOn course).map World.onStore) := by
  intro limit call w b keeps wf
  rw [perform_onStore]
  have follows : Follows False b call _ :=
    perform_follows ⟨keeps, False.elim, False.elim⟩ wf course limit False.elim False.elim
  unfold World.onStore
  rcases run : (storeOn course).perform limit call w.store with ⟨e | reply, db'⟩ <;>
    rw [run] at follows
  · refine ⟨(perform_atomic course limit call _ _ _ run) ▸ keeps, ?_⟩
    rcases e with e | cause
    · exact .inl rfl
    · exact .inr (follows (by simp [Failure.isRefusal]))
  · obtain ⟨b', answered, stage⟩ := follows
    exact ⟨b', answered, stage.keeps⟩

end Database

/-! ## Either store -/

/-- The services over a memory store without wallets, products and entries, and
over a database without them, stay in bounds, at any pace and whatever course
the units of work take. -/
theorem services_stay_in_bounds :
    (∀ (pace : Pace) (cache : Cache (StateM Shelf)) (limit : Duration) (users : List User)
      (supply : Supply) (fault : Option FaultPoint) (shelf : Shelf),
      Services.StaysInBounds ⟨Memory.store pace, cache.map World.onShelf, limit⟩
        (fun m b => m.books = b) ⟨⟨.opening users supply, fault⟩, shelf⟩) ∧
    ∀ (course : Database.Course) (cache : Cache (StateM Shelf)) (limit : Duration)
      (rows : List Database.UserRow) (supply : Supply) (guards : List Database.Guard)
      (enforced : Bool) (pool : Database.Pool) (shelf : Shelf),
      Services.StaysInBounds
        ⟨(Database.storeOn course).map World.onStore, cache.map World.onShelf, limit⟩
        (fun db b => db.books? = some b) ⟨.opening rows supply guards enforced pool, shelf⟩ := by
  refine ⟨fun pace cache limit users supply fault shelf => ?_,
    fun course cache limit rows supply guards enforced pool shelf => ?_⟩
  · exact Services.staysInBounds (Memory.store_faithful pace) (Cache.onShelf_aside cache) rfl
      (Books.opening_solvent users supply) rfl
  · have keeps : Database.Keeps (.opening rows supply guards enforced pool)
        (.opening (Database.liveUsers rows) supply.inOrder) := Database.opening_keeps ..
    refine (Services.staysInBounds (Database.store_faithful course)
      (Cache.onShelf_aside cache) keeps (Books.opening_solvent _ supply.inOrder) rfl).shown ?_
    intro db b keeps
    obtain ⟨articles, users, same, books⟩ := keeps.books?_eq
    exact ⟨articles, users, books, same⟩

end WalletLedger
