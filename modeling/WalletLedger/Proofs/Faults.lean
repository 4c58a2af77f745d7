import WalletLedger.Proofs.Backstops
import WalletLedger.Proofs.Bounds
import WalletLedger.Proofs.Memory.Faults

/-!
# Injected faults strike once

Faults are injected into a memory store while requests are served. What a
request comes to while a fault is armed is compared with what it comes to when
none is (`serve_spared`, `serve_struck`): the fault strikes the movements that
pass its step and would be carried out, and no other request notices it. By
induction a run in which nothing was struck goes as without the fault
(`run_spared`), the first request that is struck fails and uses the fault up,
and a run goes, but for what was struck, as if nothing had been injected
(`injected_faults_strike_once`).
-/

namespace WalletLedger

open Memory

/-! ## Occasions -/

/-- What may happen to a memory store that services work on. -/
inductive Occasion
  | inject (point : FaultPoint)
  | request (r : Request)

namespace Services

variable (s : Services (StateM (World Memory)))

/-- The world after an occasion. A fault that is injected replaces an earlier one. -/
def undergo (w : World Memory) : Occasion → World Memory
  | .inject p => ((Memory.arm p).alone w).2
  | .request r => (s.serve r w).2

/-- Whether a request fails with the fault that is armed. -/
def isStruck (w : World Memory) (r : Request) : Bool :=
  match w.store.fault with
  | some p => (s.serve r w).1 == .error p.failure
  | none => false

/-- The requests that did not fail with an injected fault, and how they were answered. -/
def unharmed : List Occasion → World Memory → List (Request × Except Failure (Outcome Reply))
  | [], _ => []
  | .inject p :: os, w => unharmed os (s.undergo w (.inject p))
  | .request r :: os, w =>
    if s.isStruck w r then unharmed os (s.undergo w (.request r))
    else (r, (s.serve r w).1) :: unharmed os (s.undergo w (.request r))

/-- A fault strikes a request: it is a movement that passes the step, and would succeed. -/
def Strikes (p : FaultPoint) (w : World Memory) (r : Request) : Prop :=
  (∃ m : Movement, r = m.request ∧ p ∈ m.points) ∧ ∃ o, (s.serve r w).1 = .ok o

/-- An armed fault leaves requests as they would be without it until it
strikes one of them. That one fails with an error of the store, changes nothing
and uses the fault up. -/
structure IsOneShot (p : FaultPoint) (w : World Memory) : Prop where
  armed : w.store.fault = some p
  spared : ∀ rs, (∀ rs' r, rs' ++ [r] <+: rs → ¬ s.Strikes p (s.run rs' (disarmed w)) r) →
    s.answers rs w = s.answers rs (disarmed w) ∧
      s.run rs w = rearmed (s.run rs (disarmed w)) (some p)
  struck : ∀ rs r, (∀ rs' r, rs' ++ [r] <+: rs → ¬ s.Strikes p (s.run rs' (disarmed w)) r) →
    s.Strikes p (s.run rs (disarmed w)) r → s.serve r (s.run rs w) =
      (.error (.refused (.storage ("injected fault at " ++ p.name))), s.run rs (disarmed w))

end Services

/-! ## Requests while a fault is armed -/

/-- The store whose movements are carried out behind a shield. -/
def Memory.shielded (store : Store (StateM (World Memory))) : Store (StateM (World Memory)) :=
  { store with
    deposit := fun u a => shield _ (store.deposit u a)
    withdraw := fun u a => shield _ (store.withdraw u a)
    purchase := fun u p q => shield _ (store.purchase u p q) }

/-- Services over a memory store without a deadline, with a cache beside it. -/
structure Memory.Undelayed (s : Services (StateM (World Memory))) : Prop where
  store : ∃ latency, s.store = Memory.store ⟨latency, none⟩
  cache : ∃ cache : Cache (StateM Shelf), s.cache = cache.map World.onShelf

section Serve

variable {s : Services (StateM (World Memory))} {fault : Option FaultPoint} {p : FaultPoint}
  {w : World Memory} {r : Request} {m : Movement}

theorem Memory.Undelayed.aside (undelayed : Undelayed s) : s.cache.Aside := by
  obtain ⟨-, cache, shelf⟩ := undelayed
  exact shelf ▸ Cache.onShelf_aside cache

theorem perform_shielded_call (store : Store (StateM (World Memory))) (limit : Option Duration)
    (m : Movement) :
    (shielded store).perform limit m.call = shield _ (store.perform limit m.call) := by
  have told {x : Attempt (StateM (World Memory)) Entry} :
      (Reply.entry <$> (shield _ x : Attempt (StateM (World Memory)) Entry) :
        Attempt (StateM (World Memory)) Reply) =
      shield _ (Reply.entry <$> x : Attempt (StateM (World Memory)) Reply) := by
    funext w
    rw [Attempt.map_apply]
    simp only [shield, Attempt.map_apply]
  cases m <;> exact told

/-- A store is one in which no fault is armed, with a fault. -/
def WithFault (fault : Option FaultPoint) (m m' : Memory) : Prop :=
  m.fault = none ∧ m' = ⟨m.books, fault⟩

theorem alike_shielded {pace : Pace} (unlimited : pace.deadline = none)
    (fault : Option FaultPoint) :
    AlikeStores (WithFault fault) (Memory.store pace) (shielded (Memory.store pace)) := by
  intro limit call _ w v shelves ⟨unarmed, same⟩
  obtain rfl : w = disarmed v := by
    obtain ⟨⟨books, _⟩, shelf⟩ := w
    obtain ⟨⟨_, _⟩, shelf'⟩ := v
    cases same
    cases shelves
    cases unarmed
    rfl
  have behind : (shielded (Memory.store pace)).perform limit call v =
      shield _ ((Memory.store pace).perform limit call) v := by
    rcases movement : call.movement? with _ | m
    · have plain : (shielded (Memory.store pace)).perform limit call =
          (Memory.store pace).perform limit call := by
        cases call <;> first | rfl | cases movement
      rw [plain]
      exact perform_other unlimited movement
    · obtain rfl : call = m.call := by cases call <;> cases movement <;> rfl
      rw [perform_shielded_call]
  have kept : v.store.fault = fault := congrArg Memory.fault same
  rw [behind, ← kept]
  exact ⟨rfl, rfl, perform_unarmed call unarmed, rfl⟩

variable (undelayed : Undelayed s) (unarmed : w.store.fault = none)
include undelayed unarmed

/-- Behind the shield a request comes to what it comes to without the fault. -/
theorem serve_shielded (fault : Option FaultPoint) (r : Request) :
    Services.serve { s with store := shielded s.store } r (rearmed w fault) =
      ((s.serve r w).1, rearmed (s.serve r w).2 fault) ∧ (s.serve r w).2.store.fault = none := by
  obtain ⟨⟨latency, store⟩, cache, shelf⟩ := undelayed
  have services : AlikeServices (WithFault fault) s { s with store := shielded s.store } := by
    refine ⟨?_, ⟨cache, shelf, shelf⟩, rfl⟩
    rw [store]
    exact alike_shielded rfl fault
  obtain ⟨answers, shelves, still, books⟩ :=
    serve_alike services r w (rearmed w fault) rfl ⟨unarmed, rfl⟩
  exact ⟨Prod.ext answers.symm (congrArg₂ World.mk books shelves.symm), still⟩

omit unarmed in
theorem serve_solvent (solvent : w.store.books.Solvent) (r : Request) :
    (s.serve r w).2.store.books.Solvent := by
  obtain ⟨latency, store⟩ := undelayed.store
  have faithful : Faithful manner (fun (m : Memory) b => m.books = b) s.store :=
    store ▸ Memory.store_faithful ⟨latency, none⟩
  obtain ⟨⟨b, onward, rfl⟩, -⟩ := serve_moves faithful undelayed.aside r w w.store.books rfl solvent
  exact onward.solvent solvent

theorem serve_unarmed (r : Request) : (s.serve r w).2.store.fault = none :=
  (serve_shielded undelayed unarmed none r).2

theorem perform_unhindered (call : StoreCall) :
    s.store.perform none call w = conclude w (w.store.books.respond manner call) := by
  obtain ⟨⟨latency, store⟩, -⟩ := undelayed
  rw [store]
  exact perform_alone none call nofun unarmed

/-- A movement succeeds when it has no flaw and the books carry it out. -/
theorem succeeds_iff (m : Movement) :
    (∃ o, (s.serve m.request w).1 = .ok o) ↔
      m.flaw? = none ∧ ∃ r, w.store.books.respond manner m.call = .ok r := by
  have performed := perform_unhindered undelayed unarmed m.call
  rcases flaw : m.flaw? with _ | e
  · rcases outcome : w.store.books.respond manner m.call with e | ⟨reply, b⟩ <;>
      rw [outcome] at performed
    · rw [serve_failed flaw performed]
      simp
    · obtain ⟨e, rfl⟩ := exists_entry (congrArg Prod.fst performed)
      rw [serve_committed flaw performed]
      simp
  · rw [serve_flawed flaw]
    simp

/-- A movement that is struck fails with the fault, and nothing else happens. -/
theorem serve_struck (strikes : s.Strikes p w r) :
    s.serve r (rearmed w (some p)) = (.error p.failure, w) := by
  obtain ⟨⟨m, rfl, passed⟩, success⟩ := strikes
  obtain ⟨sound, result, carried⟩ := (succeeds_iff undelayed unarmed m).mp success
  obtain ⟨⟨latency, store⟩, -⟩ := undelayed
  have met : (Memory.store ⟨latency, none⟩).perform none m.call (rearmed w (some p)) =
      (.error p.failure, disarmed w) :=
    perform_struck rfl rfl passed carried
  rw [← store, disarmed_eq unarmed] at met
  exact serve_failed sound met

/-- A request that is not struck comes to what it comes to without the fault,
which is armed after it as it was before. -/
theorem serve_spared (solvent : w.store.books.Solvent) (apart : ¬ s.Strikes p w r) :
    s.serve r (rearmed w (some p)) = ((s.serve r w).1, rearmed (s.serve r w).2 (some p)) := by
  rw [← (serve_shielded undelayed unarmed (some p) r).1]
  rcases movement : r.movement? with _ | m
  · cases r <;> first | rfl | cases movement
  obtain rfl := Request.movement?_eq_some movement
  rcases flaw : m.flaw? with _ | e
  · have same : s.store.perform none m.call (rearmed w (some p)) =
        (shielded s.store).perform none m.call (rearmed w (some p)) := by
      obtain ⟨latency, store⟩ := undelayed.store
      rw [perform_shielded_call, store]
      refine perform_spared rfl rfl (or_iff_not_imp_left.mpr fun passed => ?_)
      show ∃ e, w.store.books.respond manner m.call = .error (.refused e)
      rcases outcome : w.store.books.respond manner m.call with (e | cause) | result
      · exact ⟨e, rfl⟩
      · exact absurd outcome (Books.respond_ne_aborted (Movement.checked_of_no_flaw flaw)
          solvent.inBounds cause)
      · have success := (succeeds_iff undelayed unarmed m).mpr ⟨flaw, result, outcome⟩
        exact absurd ⟨⟨m, rfl, not_not.mp passed⟩, success⟩ apart
    rcases run : s.store.perform none m.call (rearmed w (some p)) with ⟨e | reply, w'⟩
    · rw [serve_failed flaw run, serve_failed flaw (same.symm.trans run)]
    · obtain ⟨e, rfl⟩ := exists_entry (congrArg Prod.fst run)
      rw [serve_committed flaw run, serve_committed flaw (same.symm.trans run)]
      rfl
  · rw [serve_flawed flaw, serve_flawed flaw]

end Serve

/-! ## Runs -/

section Runs

variable {s : Services (StateM (World Memory))} {p : FaultPoint} {w : World Memory}
  (undelayed : Undelayed s)
include undelayed

/-- What no fault strikes goes as without the fault, and leaves it armed. -/
theorem run_spared (unarmed : w.store.fault = none) (solvent : w.store.books.Solvent)
    (rs : List Request) (apart : ∀ rs' r, rs' ++ [r] <+: rs → ¬ s.Strikes p (s.run rs' w) r) :
    s.answers rs (rearmed w (some p)) = s.answers rs w ∧
      s.run rs (rearmed w (some p)) = rearmed (s.run rs w) (some p) ∧
      (s.run rs w).store.fault = none ∧ (s.run rs w).store.books.Solvent := by
  induction rs generalizing w with
  | nil => exact ⟨rfl, rfl, unarmed, solvent⟩
  | cons r rs ih =>
    have first := serve_spared undelayed unarmed solvent (apart [] r (by simp))
    have rest := ih (serve_unarmed undelayed unarmed r) (serve_solvent undelayed solvent r)
      fun rs' r' early => apart (r :: rs') r' ((List.prefix_cons_inj r).mpr early)
    have answers : s.answers (r :: rs) (rearmed w (some p)) =
        (s.serve r w).1 :: s.answers rs (rearmed (s.serve r w).2 (some p)) := by
      rw [Services.answers, first]
    have run : s.run (r :: rs) (rearmed w (some p)) =
        s.run rs (rearmed (s.serve r w).2 (some p)) :=
      congrArg (fun v => s.run rs (Prod.snd v)) first
    rw [answers, run, rest.1]
    exact ⟨rfl, rest.2⟩

/-- A fault that is injected into solvent books strikes once. -/
theorem inject_isOneShot (solvent : w.store.books.Solvent) :
    s.IsOneShot p (s.undergo w (.inject p)) := by
  have unarmed : (disarmed w).store.fault = none := rfl
  refine ⟨rfl, fun rs apart => ?_, fun rs r apart strikes => ?_⟩
  · obtain ⟨answers, run, -⟩ := run_spared undelayed unarmed solvent rs apart
    exact ⟨answers, run⟩
  · obtain ⟨-, run, still, -⟩ := run_spared undelayed unarmed solvent rs apart
    exact (congrArg (s.serve r) run).trans (serve_struck undelayed still strikes)

/-- Where no fault is armed, no request fails with the error of a fault. -/
theorem serve_ne_failure (unarmed : w.store.fault = none) (solvent : w.store.books.Solvent)
    (r : Request) : (s.serve r w).1 ≠ .error p.failure := by
  intro failed
  obtain ⟨latency, store⟩ := undelayed.store
  have regular := Memory.store_regular ⟨latency, none⟩
  rw [← store] at regular
  have held : w.store = ⟨w.store.books, none⟩ := congrArg (Memory.mk _) unarmed
  exact absurd (serve_foreseen regular undelayed.aside held solvent r _ failed) Bool.false_ne_true

/-- A request that fails with an injected fault changes nothing but that the
fault is used up; any other comes to what it comes to when no fault is armed. -/
theorem serve_unharmed (solvent : w.store.books.Solvent) (r : Request) :
    if s.isStruck w r then disarmed (s.serve r w).2 = disarmed w
    else (s.serve r w).1 = (s.serve r (disarmed w)).1 ∧
      disarmed (s.serve r w).2 = (s.serve r (disarmed w)).2 := by
  have unarmed : (disarmed w).store.fault = none := rfl
  have still := disarmed_eq (serve_unarmed undelayed unarmed r)
  rcases armed : w.store.fault with _ | p
  · have spared : s.isStruck w r = false := by simp [Services.isStruck, armed]
    rw [if_neg (by simp [spared])]
    rw [disarmed_eq armed] at still ⊢
    exact ⟨rfl, still⟩
  have same : w = rearmed (disarmed w) (some p) := by
    rw [← armed]
    rfl
  have struck_iff : s.isStruck w r = true ↔ (s.serve r w).1 = .error p.failure := by
    simp [Services.isStruck, armed]
  by_cases strikes : s.Strikes p (disarmed w) r
  · have struck := serve_struck undelayed unarmed strikes
    rw [← same] at struck
    rw [if_pos (struck_iff.mpr (congrArg Prod.fst struck)), struck]
    rfl
  · have spared := serve_spared undelayed unarmed solvent strikes
    rw [← same] at spared
    have other : ¬ s.isStruck w r = true := fun failed =>
      serve_ne_failure undelayed unarmed solvent r
        ((congrArg Prod.fst spared).symm.trans (struck_iff.mp failed))
    rw [if_neg other, spared]
    exact ⟨rfl, still⟩

/-- Without the injections and what failed with them, a run goes on as it did. -/
theorem run_unharmed (solvent : w.store.books.Solvent) (os : List Occasion) :
    (s.unharmed os w).map Prod.snd = s.answers ((s.unharmed os w).map Prod.fst) (disarmed w) ∧
      disarmed (os.foldl s.undergo w) = s.run ((s.unharmed os w).map Prod.fst) (disarmed w) := by
  induction os generalizing w with
  | nil => exact ⟨rfl, rfl⟩
  | cons o os ih =>
    cases o with
    | inject p =>
      have books : (s.undergo w (.inject p)).store.books.Solvent := solvent
      exact ih books
    | request r =>
      have first := serve_unharmed undelayed solvent r
      have rest := ih (serve_solvent undelayed solvent r)
      simp only [Services.unharmed, List.foldl_cons, Services.undergo] at rest ⊢
      by_cases struck : s.isStruck w r
      · rw [if_pos struck] at first ⊢
        rw [← first]
        exact rest
      · rw [if_neg struck] at first ⊢
        rw [first.2] at rest
        refine ⟨?_, rest.2⟩
        simp only [List.map_cons, Services.answers, first.1, rest.1]

theorem foldl_solvent (solvent : w.store.books.Solvent) (os : List Occasion) :
    (os.foldl s.undergo w).store.books.Solvent := by
  induction os generalizing w with
  | nil => exact solvent
  | cons o os ih =>
    cases o with
    | inject p => exact ih solvent
    | request r => exact ih (serve_solvent undelayed solvent r)

end Runs

/-- In every run of requests and injections on a memory store without a
deadline, whatever was injected before, an injected fault leaves requests as
they would be until one of them passes its step and would succeed; that one
fails with an error of the store and changes nothing, and then no fault is
armed. Without the injections and the requests that failed with them, every
other request is answered as it was, and the store and the cache end as they did. -/
theorem injected_faults_strike_once (latency : Duration) (cache : Cache (StateM Shelf))
    (limit : Duration) (users : List User) (supply : Supply) (shelf : Shelf) (os : List Occasion) :
    let s : Services (StateM (World Memory)) :=
      ⟨Memory.store ⟨latency, none⟩, cache.map World.onShelf, limit⟩
    let start : World Memory := ⟨⟨.opening users supply, none⟩, shelf⟩
    (∀ p, s.IsOneShot p (s.undergo (os.foldl s.undergo start) (.inject p))) ∧
      (s.unharmed os start).map Prod.snd = s.answers ((s.unharmed os start).map Prod.fst) start ∧
      disarmed (os.foldl s.undergo start) = s.run ((s.unharmed os start).map Prod.fst) start := by
  intro s start
  have undelayed : Undelayed s := ⟨⟨latency, rfl⟩, cache, rfl⟩
  have solvent : start.store.books.Solvent := Books.opening_solvent users supply
  exact ⟨fun p => inject_isOneShot undelayed (foldl_solvent undelayed solvent os),
    run_unharmed undelayed solvent os⟩

/-- A fault at the stock passes over a deposit and strikes a purchase. -/
example :
    let s : Services (StateM (World Memory)) := ⟨Memory.store .unlimited, .inWorld, ⟨0⟩⟩
    let start : World Memory := ⟨⟨.opening [ada] .start, none⟩, .empty⟩
    (s.unharmed [.request (.initWallet "u"), .request (.createProduct ⟨"tea", "", ⟨5⟩, 9⟩),
      .inject .stockUpdate, .request (.deposit "u" ⟨50⟩),
      .request (.purchase "u" (Uuid.numbered 2) 2), .request (.withdraw "u" ⟨1⟩)] start).map
        Prod.fst =
      [.initWallet "u", .createProduct ⟨"tea", "", ⟨5⟩, 9⟩, .deposit "u" ⟨50⟩,
        .withdraw "u" ⟨1⟩] := by
  decide +kernel

end WalletLedger
