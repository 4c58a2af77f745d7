import WalletLedger.Proofs.Books.Movements
import WalletLedger.Proofs.Memory.Store

/-!
# Where faults strike

The unit of a movement has two phases: first it looks at the books, where it
may be refused, and then it writes, where only arithmetic or a fault can stop
it. The steps at which a fault can be raised are all in the second phase. So an
armed fault ends the unit of a movement that passes its step and would be
carried out, and stays armed through every other unit (`unit_passes`,
`unit_blind`). Without a deadline the calls of the store are what their units
are (`perform_struck`, `perform_spared`): a call that is spared is carried out
behind a `shield`, as if nothing were armed.
-/

namespace WalletLedger

open Memory

/-- The steps that a movement passes when it is carried out. -/
def Movement.points : Movement → List FaultPoint
  | .deposit _ _ | .withdraw _ _ => [.balanceWrite, .ledgerInsert]
  | .purchase _ _ _ => [.balanceWrite, .stockUpdate, .ledgerInsert]

namespace Memory

namespace Work

variable {α β : Type} {x : Work α} {points : List FaultPoint}

/-! ## Steps that never meet a fault -/

/-- A unit comes to the same whatever fault is armed, and the fault stays armed. -/
def Blind (x : Work α) : Prop :=
  ∀ b armed, x b armed = ((x b none).1, armed)

theorem Blind.bind {f : α → Work β} (hx : x.Blind) (hf : ∀ a, (f a).Blind) : (x >>= f).Blind := by
  intro b armed
  rw [bind_apply, bind_apply, hx b armed, hx b none]
  rcases (x b none).1 with e | ⟨a, b'⟩
  · rfl
  · exact hf a b' armed

theorem blind_look {f : Books → Work α} (hf : ∀ b, (f b).Blind) :
    ((get : Work Books) >>= f).Blind :=
  Blind.bind (fun _ _ => rfl) hf

theorem blind_orRefuse (e : LedgerError) (a : Option α) : (orRefuse e a).Blind := by
  cases a <;> exact fun _ _ => rfl

theorem blind_findWallet (user : String) : (findWallet user).Blind :=
  blind_look fun _ => blind_orRefuse _ _

theorem blind_findProduct (id : String) : (findProduct id).Blind :=
  blind_look fun _ => blind_orRefuse _ _

theorem Blind.map (hx : x.Blind) (f : α → β) : (f <$> x).Blind := by
  show (x >>= fun a => pure (f a)).Blind
  exact hx.bind fun _ _ _ => rfl

/-- Only movements meet faults. -/
theorem unit_blind {call : StoreCall} (other : call.movement? = none) : (unit call).Blind := by
  cases call with
  | deposit | withdraw | purchase => cases other
  | createWallet user =>
    refine Blind.map (blind_look fun b => ?_) _
    split <;> exact fun _ _ => rfl
  | insertProduct p => exact fun _ _ => rfl
  | updateProduct id p => exact ((blind_findProduct id).bind fun _ _ _ => rfl).map _
  | deleteProduct id => exact ((blind_findProduct id).bind fun _ _ _ => rfl).map _
  | _ => exact fun _ _ => rfl

/-! ## Steps that write -/

/-- A unit that nothing refuses passes steps on its way: a fault that is armed
for one of them ends it if it would be carried out, and any other stays armed. -/
structure Writes (points : List FaultPoint) (x : Work α) : Prop where
  spares : x.Spares
  certain : ∀ b e, (x b none).1 ≠ .error (.refused e)
  spared : ∀ b p, p ∉ points → x b (some p) = ((x b none).1, some p)
  struck : ∀ b p r, p ∈ points → (x b none).1 = .ok r → x b (some p) = (.error p.failure, none)

theorem writes_of_blind (blind : x.Blind) (certain : ∀ b e, (x b none).1 ≠ .error (.refused e)) :
    x.Writes [] :=
  ⟨.of_eq blind, certain, fun b p _ => blind b (some p), fun _ _ _ passed => by cases passed⟩

theorem writes_pure (a : α) : (pure a : Work α).Writes [] :=
  writes_of_blind (fun _ _ => rfl) fun _ _ => nofun

theorem writes_modify (f : Books → Books) : (modify f : Work Unit).Writes [] :=
  writes_of_blind (fun _ _ => rfl) fun _ _ => nofun

theorem writes_newId : newId.Writes [] :=
  writes_of_blind (fun _ _ => rfl) fun _ _ => nofun

theorem writes_readClock : readClock.Writes [] :=
  writes_of_blind (fun _ _ => rfl) fun _ _ => nofun

theorem writes_compute (r : Except Abort α) : (compute r).Writes [] := by
  cases r <;> exact writes_of_blind (fun _ _ => rfl) fun _ _ => nofun

theorem writes_trip (point : FaultPoint) : (trip point).Writes [point] where
  spares := trip_spares point
  certain _ _ := nofun
  spared b p other := by
    have apart : p ≠ point := fun same => other (List.mem_singleton.mpr same)
    simp [trip, apart]
  struck b p r passed _ := by
    obtain rfl := List.mem_singleton.mp passed
    simp [trip, FaultPoint.failure]

/-- One after the other, both pass their steps. -/
theorem Writes.bind {f : α → Work β} {rest : List FaultPoint} (hx : x.Writes points)
    (hf : ∀ a, (f a).Writes rest) : (x >>= f).Writes (points ++ rest) where
  spares := hx.spares.bind fun a => (hf a).spares
  certain b e := by
    rw [bind_apply, hx.spares.unarmed]
    rcases outcome : (x b none).1 with e' | ⟨a, b'⟩
    · rintro ⟨⟩
      exact hx.certain b e outcome
    · exact (hf a).certain b' e
  spared b p other := by
    obtain ⟨before, after⟩ := not_or.mp (mt List.mem_append.mpr other)
    rw [bind_apply, bind_apply, hx.spared b p before, hx.spares.unarmed]
    rcases (x b none).1 with e | ⟨a, b'⟩
    · rfl
    · exact (hf a).spared b' p after
  struck b p r passed carried := by
    rw [bind_apply, hx.spares.unarmed] at carried
    rcases outcome : (x b none).1 with e | ⟨a, b'⟩ <;> rw [outcome] at carried
    · cases carried
    · by_cases first : p ∈ points
      · rw [bind_apply, hx.struck b p _ first outcome]
      · have later := (List.mem_append.mp passed).resolve_left first
        rw [bind_apply, hx.spared b p first, outcome]
        exact (hf a).struck b' p r later carried

theorem writes_append (walletId : String) (kind : EntryKind) :
    (append walletId kind).Writes [.ledgerInsert] := by
  refine (writes_trip .ledgerInsert).bind fun _ => writes_newId.bind fun _ => ?_
  exact writes_readClock.bind fun _ => (writes_modify _).bind fun _ => writes_pure _

/-! ## Units of movements -/

/-- A unit that may be refused before it writes: a fault that is armed for one
of its steps ends it if it would be carried out, and no fault is met if it is
refused. -/
structure Passes (points : List FaultPoint) (x : Work α) : Prop where
  spared : ∀ b p, p ∉ points ∨ (∃ e, (x b none).1 = .error (.refused e)) →
    x b (some p) = ((x b none).1, some p)
  struck : ∀ b p r, p ∈ points → (x b none).1 = .ok r → x b (some p) = (.error p.failure, none)

theorem Writes.passes (hx : x.Writes points) : x.Passes points where
  spared b p apart := by
    rcases apart with other | ⟨e, refused⟩
    · exact hx.spared b p other
    · exact absurd refused (hx.certain b e)
  struck := hx.struck

/-- What comes before may refuse, but meets no fault. -/
theorem Blind.passes {f : α → Work β} (hx : x.Blind) (hf : ∀ a, (f a).Passes points) :
    (x >>= f).Passes points where
  spared b p apart := by
    rw [bind_apply, hx b none] at apart
    rw [bind_apply, bind_apply, hx b (some p), hx b none]
    rcases outcome : (x b none).1 with e | ⟨a, b'⟩
    · rfl
    · rw [outcome] at apart
      exact (hf a).spared b' p apart
  struck b p r passed carried := by
    rw [bind_apply, hx b none] at carried
    rw [bind_apply, hx b (some p)]
    rcases outcome : (x b none).1 with e | ⟨a, b'⟩ <;> rw [outcome] at carried
    · cases carried
    · exact (hf a).struck b' p r passed carried

/-- A unit that may be refused before it goes on. -/
theorem passes_guard {c : Prop} [Decidable c] {e : LedgerError} {f : Unit → Work α}
    (hf : (f ()).Passes points) : (if c then refuse e >>= f else f ()).Passes points := by
  split
  · exact Blind.passes (fun _ _ => rfl) fun _ => hf
  · exact hf

theorem passes_map (hx : x.Passes points) (f : α → β) : (f <$> x).Passes points where
  spared b p apart := by
    have same := hx.spared b p
    simp only [map_apply] at apart ⊢
    rcases plain : x b none with ⟨e | ⟨a, b'⟩, armed⟩ <;> rw [plain] at apart same
    · rw [same (apart.imp_right fun ⟨e', refused⟩ => ⟨e', by cases refused; rfl⟩)]
    · rw [same (.inl (apart.resolve_right nofun))]
  struck b p r passed carried := by
    simp only [map_apply] at carried ⊢
    rcases plain : x b none with ⟨e | ⟨a, b'⟩, armed⟩ <;> rw [plain] at carried
    · cases carried
    · rw [hx.struck b p (a, b') passed (congrArg Prod.fst plain)]

/-- The unit of a movement passes the steps of the movement, after all that it looks at. -/
theorem unit_passes (m : Movement) : (unit m.call).Passes m.points := by
  cases m with
  | deposit user amount =>
    refine passes_map ((blind_findWallet user).passes fun w => ?_) _
    refine (blind_orRefuse _ _).passes fun balance => Writes.passes ?_
    refine (writes_trip .balanceWrite).bind fun _ => writes_readClock.bind fun now => ?_
    exact (writes_modify _).bind fun _ => writes_append _ _
  | withdraw user amount =>
    refine passes_map ((blind_findWallet user).passes fun w => passes_guard ?_) _
    refine ((writes_trip .balanceWrite).bind fun _ => (writes_compute _).bind fun _ => ?_).passes
    refine writes_readClock.bind fun now => ?_
    exact (writes_modify _).bind fun _ => writes_append _ _
  | purchase user id quantity =>
    refine passes_map ((blind_findWallet user).passes fun w => ?_) _
    refine (blind_findProduct id).passes fun p => passes_guard ?_
    refine (blind_orRefuse _ _).passes fun total => passes_guard ?_
    refine (writes_readClock.bind fun now => (writes_trip .balanceWrite).bind fun _ => ?_).passes
    refine (writes_compute _).bind fun balance => (writes_modify _).bind fun _ => ?_
    refine (writes_trip .stockUpdate).bind fun _ => (writes_compute _).bind fun stock => ?_
    exact (writes_modify _).bind fun _ => writes_append _ _

end Work

/-! ## Calls -/

section Calls

variable {α : Type} {pace : Pace} {limit : Option Duration} {w : World Memory}

/-- A world with another fault armed, or none. -/
def rearmed (w : World Memory) (fault : Option FaultPoint) : World Memory :=
  { w with store := { w.store with fault } }

theorem disarmed_eq (unarmed : w.store.fault = none) : disarmed w = w :=
  congrArg₂ World.mk (congrArg (Memory.mk _) unarmed.symm) rfl

/-- An operation is carried out as if no fault were armed, and what was armed stays so. -/
def shield (α : Type) (x : StateM (World Memory) α) : StateM (World Memory) α := fun w =>
  ((x (disarmed w)).1, rearmed (x (disarmed w)).2 w.store.fault)

/-- A write without a deadline is what its unit comes to. -/
theorem write_undelayed (unlimited : pace.deadline = none) (work : Work α) (w : World Memory) :
    Routine.alone (write pace work) w =
      conclude (rearmed w (work w.store.books w.store.fault).2)
        (work w.store.books w.store.fault).1 := by
  unfold write
  rcases outcome : work w.store.books w.store.fault with ⟨e | ⟨a, books⟩, fault⟩ <;>
    simp [Routine.alone, Turn.isQuick, Work.attempt, outcome, unlimited, conclude, Except.map,
      rearmed, withBooks]

theorem perform_undelayed (unlimited : pace.deadline = none) {call : StoreCall}
    (writes : ¬ call.isRead) : (store pace).perform limit call w =
      conclude (rearmed w (Work.unit call w.store.books w.store.fault).2)
        (Work.unit call w.store.books w.store.fault).1 := by
  have own : (pace.of call).deadline = none := by
    cases call <;> first | exact unlimited | rfl
  rw [perform_eq_alone, perform_write pace limit writes]
  exact write_undelayed own _ w

/-- A call whose unit does not meet the fault leaves it armed. -/
theorem perform_shielded (unlimited : pace.deadline = none) {call : StoreCall}
    (spared : Work.unit call w.store.books w.store.fault =
      ((Work.unit call w.store.books none).1, w.store.fault)) :
    (store pace).perform limit call w = shield _ ((store pace).perform limit call) w := by
  unfold shield
  by_cases reads : call.isRead
  · rw [perform_eq_alone, perform_read pace limit reads, read_alone, read_alone]
    rfl
  · have plain : (store pace).perform limit call (disarmed w) =
        conclude (rearmed (disarmed w) (Work.unit call w.store.books none).2)
          (Work.unit call w.store.books none).1 :=
      perform_undelayed unlimited reads
    rw [plain, perform_undelayed unlimited reads, spared]
    rcases (Work.unit call w.store.books none).1 with e | ⟨reply, books⟩ <;> rfl

theorem perform_other (unlimited : pace.deadline = none) {call : StoreCall}
    (other : call.movement? = none) :
    (store pace).perform limit call w = shield _ ((store pace).perform limit call) w :=
  perform_shielded unlimited (Work.unit_blind other _ _)

section Movements

variable {m : Movement} {p : FaultPoint} (unlimited : pace.deadline = none)
  (armed : w.store.fault = some p)
include unlimited armed

/-- A movement that does not pass the step of a fault, or is refused, leaves it armed. -/
theorem perform_spared
    (apart : p ∉ m.points ∨ ∃ e, w.store.books.respond manner m.call = .error (.refused e)) :
    (store pace).perform limit m.call w = shield _ ((store pace).perform limit m.call) w := by
  refine perform_shielded unlimited ?_
  rw [← Work.unit_respond] at apart
  rw [armed]
  exact (Work.unit_passes m).spared w.store.books p apart

/-- A movement that would be carried out and passes the step of a fault meets it. -/
theorem perform_struck (passed : p ∈ m.points) {r : Reply × Books}
    (carried : w.store.books.respond manner m.call = .ok r) :
    (store pace).perform limit m.call w = (.error p.failure, disarmed w) := by
  rw [← Work.unit_respond] at carried
  rw [perform_undelayed unlimited m.call_writes, armed,
    (Work.unit_passes m).struck w.store.books p r passed carried]
  rfl

end Movements

/-- What is not armed before a call is not armed after it. -/
theorem perform_unarmed (call : StoreCall) (unarmed : w.store.fault = none) :
    ((store pace).perform limit call w).2.store.fault = none := by
  have ending := perform_ending pace limit call w
  generalize (store pace).perform limit call w = r at ending
  obtain ⟨r, w'⟩ := r
  cases ending with
  | late => exact unarmed
  | faulted => rfl
  | refused => exact unarmed
  | answered => exact unarmed

end Calls

end Memory

end WalletLedger
