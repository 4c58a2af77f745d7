import WalletLedger.Proofs.Bounds
import WalletLedger.Proofs.Database.Movements
import WalletLedger.Proofs.Regularity
import WalletLedger.Proofs.Services.Movements

/-!
# What comes of a movement

In every state that requests lead to, of either store, a deposit, a withdrawal
or a purchase is refused for the first cause that applies and then nothing has
changed, or it is carried out, exactly and alone (`movements_settle`). Requests lead a
store in which nothing is in the way to states in which nothing is, so only the
books of the state decide.
-/

namespace WalletLedger

open Memory Database

/-- The services settle a movement in a world that shows books. It is refused
for its first flaw, or else for the first hindrance in the books, and the world
is as it was. Where there is neither, the answer is a new entry, and the world
shows the books in which the movement was carried out under this entry. -/
def Services.Settles {S : Type} (s : Services (StateM (World S))) (shows : S → Books → Prop)
    (w : World S) (b : Books) (m : Movement) : Prop :=
  match m.flaw?.or (b.hindrance? m) with
  | some e => s.serve m.request w = (.error (.refused e), w)
  | none => ∃ e b', (s.serve m.request w).1 = .ok (.created (.entry e)) ∧
      shows (s.serve m.request w).2.store b' ∧ b.Carried m e b'

/-- After any requests the services settle every movement, in the books that
the world shows. -/
def Services.SettlesMovements {S : Type} (s : Services (StateM (World S)))
    (shows : S → Books → Prop) (start : World S) : Prop :=
  ∀ rs : List Request, ∃ b, shows (s.run rs start).store b ∧
    ∀ m, s.Settles shows (s.run rs start) b m

/-! ## From the store to the services -/

section Settle

variable {S : Type} {how : Manner} {shows : S → Books → Prop} {s : Services (StateM (World S))}

/-- A store comes to what the books say of a movement, and shows the books after it. -/
def Store.Settles (store : Store (StateM (World S))) (how : Manner) (shows : S → Books → Prop)
    (w : World S) (b : Books) (m : Movement) : Prop :=
  match b.respond how m.call with
  | .ok (reply, b') => ∃ w', store.perform none m.call w = (.ok reply, w') ∧ shows w'.store b'
  | .error e => store.perform none m.call w = (.error e, w)

theorem Store.Settles.mono {shows' : S → Books → Prop} {store : Store (StateM (World S))}
    {w : World S} {b : Books} {m : Movement} (h : store.Settles how shows w b m)
    (le : ∀ s b, shows s b → shows' s b) : store.Settles how shows' w b m := by
  unfold Store.Settles at h ⊢
  rcases responded : b.respond how m.call with e | ⟨reply, b'⟩ <;> rw [responded] at h
  · exact h
  · obtain ⟨w', performed, shown⟩ := h
    exact ⟨w', performed, le _ _ shown⟩

theorem settles_of_store (aside : s.cache.Aside) {w : World S} {b : Books} (wf : b.WellFormed)
    (inBounds : b.InBounds) {m : Movement}
    (settles : m.flaw? = none → s.store.Settles how shows w b m) : s.Settles shows w b m := by
  unfold Services.Settles
  rcases flaw : m.flaw? with _ | e
  · have settled := settles flaw
    unfold Store.Settles at settled
    rcases hindrance : b.hindrance? m with _ | e
    · obtain ⟨e, b', responded, carried⟩ :=
        Books.respond_of_no_hindrance wf inBounds flaw hindrance
      rw [responded] at settled
      obtain ⟨w', performed, shown⟩ := settled
      obtain ⟨answer, store⟩ := serve_answered aside flaw performed
      exact ⟨e, b', answer, store ▸ shown, carried⟩
    · rw [Books.respond_of_hindrance inBounds flaw hindrance] at settled
      exact serve_failed flaw settled
  · exact serve_flawed flaw

end Settle

/-! ## Either store -/

theorem Memory.settles {w : World Memory} {b : Books} (held : w.store = ⟨b, none⟩)
    {pace : Pace} (quick : pace.IsQuick) (m : Movement) :
    (Memory.store pace).Settles manner (fun m b => m = ⟨b, none⟩) w b m := by
  obtain ⟨store, shelf⟩ := w
  obtain rfl : store = ⟨b, none⟩ := held
  have alone : (Memory.store pace).perform none m.call ⟨⟨b, none⟩, shelf⟩ = _ :=
    perform_alone none m.call quick rfl
  unfold Store.Settles
  rw [alone]
  rcases b.respond manner m.call with e | ⟨reply, b'⟩
  · rfl
  · exact ⟨_, rfl, rfl⟩

theorem Database.Shows.settles {w : World Database} {b : Books} (shows_b : Shows w.store b)
    (stage : Stage True w.store b) (wf : b.WellFormed) (inBounds : b.InBounds) {m : Movement}
    (sound : m.flaw? = none) :
    ((storeOn .smooth).map World.onStore).Settles manner Shows w b m := by
  have follows : Follows True b m.call _ := perform_follows stage wf .smooth none (fun _ => rfl)
    fun _ => ⟨inBounds, Movement.checked_of_no_flaw sound⟩
  unfold Store.Settles
  rw [perform_onStore]
  unfold World.onStore
  rcases run : (storeOn .smooth).perform none m.call w.store with ⟨e | reply, db'⟩ <;>
    rw [run] at follows
  · rw [follows fun _ => trivial]
    obtain rfl := perform_atomic .smooth none m.call _ _ _ run
    rfl
  · obtain ⟨b', answered, stage'⟩ := follows
    rw [answered]
    obtain ⟨e, -, carried⟩ := (Books.respond_step answered).carried wf
    exact ⟨_, rfl, shows_b.movement wf carried stage'.keeps (perform_spares run)⟩

/-- Over a memory store without wallets, products and entries, in which no
fault is armed and nothing is late, and over a migrated database without them,
with a free pool, no guards and a deadline that is not reached, the services
settle every movement. -/
theorem movements_settle :
    (∀ {pace : Pace}, pace.IsQuick → ∀ (cache : Cache (StateM Shelf)) (limit : Duration)
      (users : List User) (supply : Supply) (shelf : Shelf),
      Services.SettlesMovements ⟨Memory.store pace, cache.map World.onShelf, limit⟩
        (fun m b => m = ⟨b, none⟩) ⟨⟨.opening users supply, none⟩, shelf⟩) ∧
    ∀ {deadline : Option Duration}, Cutoff.ofDeadline deadline = none →
      ∀ {pool : Pool}, pool.IsFree → ∀ (cache : Cache (StateM Shelf)) (limit : Duration)
      (rows : List UserRow) (supply : Supply) (enforced : Bool) (shelf : Shelf),
      Services.SettlesMovements
        ⟨(Database.store deadline).map World.onStore, cache.map World.onShelf, limit⟩
        (fun db b => db.books? = some b) ⟨.opening rows supply [] enforced pool, shelf⟩ := by
  refine ⟨fun quick cache limit users supply shelf rs => ?_,
    fun {deadline} unhurried pool free cache limit rows supply enforced shelf rs => ?_⟩
  · obtain ⟨b, held, solvent⟩ := Memory.run_solvent _ cache limit users supply shelf rs
    refine ⟨b, held, fun m => ?_⟩
    exact settles_of_store (Cache.onShelf_aside cache) solvent.wellFormed solvent.inBounds
      fun _ => Memory.settles held quick m
  · obtain ⟨_, stage, solvent⟩ :=
      Database.run_solvent deadline free cache limit rows supply enforced shelf rs
    obtain ⟨b, shows_b, stage, wf, inBounds⟩ := stage.shows solvent.wellFormed solvent.inBounds
    refine ⟨b, shows_b.books?_eq, fun m => ?_⟩
    have settled (sound : m.flaw? = none) := shows_b.settles stage wf inBounds sound
    rw [← store_of_unhurried unhurried] at settled
    exact settles_of_store (Cache.onShelf_aside cache) wf inBounds fun sound =>
      (settled sound).mono fun _ _ => Shows.books?_eq

/-- Either store with one user, without a cache. -/
theorem movements_settle_at_once :
    Pace.unlimited.IsQuick ∧ Cutoff.ofDeadline none = none ∧ Pool.IsFree ⟨4, ⟨0⟩, true, false⟩ ∧
    Services.SettlesMovements ⟨Memory.store .unlimited, Cache.absent.map World.onShelf, ⟨0⟩⟩
      (fun m b => m = ⟨b, none⟩) ⟨⟨.opening [ada] .start, none⟩, .empty⟩ ∧
    Services.SettlesMovements
      ⟨(Database.store none).map World.onStore, Cache.absent.map World.onShelf, ⟨0⟩⟩
      (fun db b => db.books? = some b)
      ⟨.opening [⟨ada, false⟩] .start [] true ⟨4, ⟨0⟩, true, false⟩, .empty⟩ :=
  ⟨Pace.unlimited_isQuick, rfl, ⟨rfl, rfl⟩,
    movements_settle.1 Pace.unlimited_isQuick .absent ⟨0⟩ [ada] .start .empty,
    movements_settle.2 rfl ⟨rfl, rfl⟩ .absent ⟨0⟩ [⟨ada, false⟩] .start true .empty⟩

end WalletLedger
