import WalletLedger.Proofs.Regularity

/-!
# Backstops are not reached

The stores watch over themselves: arithmetic aborts when it overflows, the
schema checks every row, a row that is read has to decode, and an update has to
touch one row. Each of these would end a request in a panic or in an error of
the store. Services whose store is left alone never come to one, in any state
that requests lead to and with any arguments (`backstops_are_unreachable`):
their requests only fail for what `Failure.isForeseen` lists.
-/

namespace WalletLedger

open Memory Database

/-- Whether the services fail in this way without a store or another writer being at fault. -/
def Failure.isForeseen : Failure → Bool
  | .aborted _ => false
  | .refused (.storage _) | .refused (.duplicateWallet _) | .refused (.serializationConflict _) =>
    false
  | .refused _ => true

/-- Of the errors of a database only a missing wallet and a missing product are foreseen. -/
theorem Failure.eq_notFound_of_isForeseen {e : DatabaseError}
    (foreseen : (Failure.refused (.ofDatabase e)).isForeseen) :
    ∃ entity id, e = .notFound entity id ∧ (entity = "Wallet" ∨ entity = "Product") := by
  rcases e with ⟨entity, id⟩ | _ | _ | _ | _ | _ | _ | _ | _ | _ | _
  case notFound =>
    refine ⟨entity, id, rfl, ?_⟩
    by_contra other
    obtain ⟨notWallet, notProduct⟩ := not_or.mp other
    simp [LedgerError.ofDatabase, notWallet, notProduct, isForeseen] at foreseen
  all_goals cases foreseen

/-! ## Requests on books -/

section Foreseen

variable {α β : Type} {how : Manner} {b : Books} {late : Option Duration} {m : Movement}

/-- A computation only fails in ways that are foreseen. -/
def Foreseen (r : Except Failure α) : Prop := ∀ e, r = .error e → e.isForeseen

theorem foreseen_ok (a : α) : Foreseen (.ok a) := nofun

theorem foreseen_error {e : Failure} (foreseen : e.isForeseen) :
    Foreseen (.error e : Except Failure α) := by
  rintro _ ⟨⟩
  exact foreseen

theorem Foreseen.bind {r : Except Failure α} (h : Foreseen r) {f : α → Except Failure β}
    (rest : ∀ a, r = .ok a → Foreseen (f a)) : Foreseen (r >>= f) := by
  rcases r with e | a
  · exact foreseen_error (h e rfl)
  · exact rest a rfl

theorem Foreseen.map {r : Except Failure α} (h : Foreseen r) (f : α → β) :
    Foreseen (r.map f) := by
  rcases r with e | a
  · exact foreseen_error (h e rfl)
  · exact foreseen_ok _

theorem foreseen_ofCheck (c : Validation.Check) : Foreseen (Failure.ofCheck c) := by
  rcases c with e | _
  · exact foreseen_error rfl
  · exact foreseen_ok ()

theorem Movement.foreseen_of_flaw {e : LedgerError} (flaw : m.flaw? = some e) :
    (Failure.refused e).isForeseen := by
  unfold Movement.flaw? at flaw
  split at flaw
  · cases flaw
    rfl
  · rcases m with ⟨_, amount⟩ | ⟨_, amount⟩ | ⟨_, _, quantity⟩ <;>
      simp only [Option.ite_none_right_eq_some, Option.some.injEq] at flaw <;>
      obtain ⟨-, rfl⟩ := flaw <;> rfl

namespace Memory.Books

theorem foreseen_of_hindrance {e : LedgerError} (hindered : b.hindrance? m = some e) :
    (Failure.refused e).isForeseen := by
  unfold hindrance? at hindered
  split at hindered
  · cases hindered
    rfl
  · unfold shortfall? at hindered
    dsimp only at hindered
    repeat' split at hindered
    all_goals first | (cases hindered; done) | (cases hindered; rfl)

theorem holding_foreseen (user : String) : Foreseen (b.holding user) := by
  refine (foreseen_ofCheck _).bind fun _ _ => ?_
  split
  · exact foreseen_ok _
  · exact foreseen_error rfl

theorem existing_foreseen (id : String) : Foreseen (b.existing id) := by
  unfold existing
  rcases Validation.uuid id with _ | _
  · exact foreseen_error rfl
  · rcases b.product? id with _ | p
    · exact foreseen_error rfl
    · exact foreseen_ok p

/-- A movement is refused for a flaw or a hindrance, or it is late. -/
theorem move_foreseen (wf : b.WellFormed) (inBounds : b.InBounds) :
    Foreseen (b.move how late m) := by
  unfold move
  rcases flaw : m.flaw? with _ | e
  · refine Foreseen.map ?_ _
    rcases late with _ | limit
    · rcases hindered : b.hindrance? m with _ | e
      · obtain ⟨e, b', answered : b.respond how m.call = _, -⟩ :=
          respond_of_no_hindrance wf inBounds flaw hindered
        simp only [comesTo, answered]
        exact foreseen_ok _
      · simp only [comesTo, respond_of_hindrance inBounds flaw hindered]
        exact foreseen_error (foreseen_of_hindrance hindered)
    · exact foreseen_error rfl
  · exact foreseen_error (Movement.foreseen_of_flaw flaw)

theorem fulfil_foreseen (wf : b.WellFormed) (inBounds : b.InBounds) (r : Request) :
    Foreseen (b.fulfil how late r) := by
  cases r with
  | initWallet user =>
    refine (foreseen_ofCheck _).bind fun _ _ => ?_
    split
    · exact foreseen_error rfl
    · exact foreseen_ok _
  | getWallet user => exact (holding_foreseen user).map _
  | balance user => exact (holding_foreseen user).map _
  | deposit | withdraw | purchase => exact move_foreseen wf inBounds
  | listWallets | listEntries | listProducts => exact foreseen_ok _
  | history user => exact (foreseen_ofCheck _).bind fun _ _ => foreseen_ok _
  | getProduct id => exact (existing_foreseen id).map _
  | createProduct fields => exact (foreseen_ofCheck _).bind fun _ _ => foreseen_ok _
  | updateProduct id fields =>
    refine (foreseen_ofCheck _).bind fun _ _ => (existing_foreseen id).bind fun _ _ => ?_
    rw [respond]
    rcases b.product? id with _ | p
    · exact foreseen_error rfl
    · exact foreseen_ok _
  | deleteProduct id =>
    refine (existing_foreseen id).bind fun _ _ => ?_
    rw [respond]
    rcases b.product? id with _ | p
    · exact foreseen_error rfl
    · exact foreseen_ok _

end Memory.Books

end Foreseen

/-! ## Requests to services -/

section Serve

variable {S : Type} {how : Manner} {holds : S → Books → Prop}
  {serving : Services (StateM (World S)) → Prop}
  {tempo : Movement → Bool → Option Duration → Prop} {start w : World S} {b : Books}

/-- Requests lead from solvent books to solvent books. -/
theorem Leads.solvent (leads : Leads serving start w)
    (serves : ∀ s, serving s → Faithful how holds s.store ∧ s.cache.Aside)
    (held : holds start.store b) (solvent : b.Solvent) : ∃ b', holds w.store b' ∧ b'.Solvent := by
  induction leads with
  | start => exact ⟨b, held, solvent⟩
  | served before serving r ih =>
    obtain ⟨b, held, solvent⟩ := ih
    obtain ⟨faithful, aside⟩ := serves _ serving
    obtain ⟨b', onward, held⟩ := (serve_moves faithful aside r _ b held solvent).1
    exact ⟨b', held, onward.solvent solvent⟩
  | lost before kept ih => exact ih

/-- On solvent books a request is answered, or fails in a way that is foreseen. -/
theorem serve_foreseen {s : Services (StateM (World S))} (regular : Regular how holds tempo s.store)
    (aside : s.cache.Aside) (held : holds w.store b) (solvent : b.Solvent) (r : Request) :
    Foreseen (s.serve r w).1 := by
  obtain ⟨late, -, ⟨answers, -⟩ | ⟨⟨a, recalled⟩, -⟩⟩ :=
    serve_fulfils regular aside held solvent.wellFormed solvent.inBounds r
  · rw [answers]
    exact (Books.fulfil_foreseen solvent.wellFormed solvent.inBounds r).map _
  · rw [recalled]
    exact foreseen_ok a

end Serve

/-! ## Either store -/

/-- Services over a memory store at some pace, with a cache beside it. -/
def Memory.Undisturbed (s : Services (StateM (World Memory))) : Prop :=
  (∃ pace, s.store = store pace) ∧ s.cache.Aside

/-- Services over a database on some course on which commits are taken, with a cache beside it. -/
def Database.Undisturbed (s : Services (StateM (World Database))) : Prop :=
  (∃ cutoff, s.store = (storeOn ⟨cutoff, none⟩).map World.onStore) ∧ s.cache.Aside

/-- Services serve requests over a memory store without a fault, and over a database without
guards whose pool is free; at the start there are users, but neither wallets nor products nor
entries. Whatever they are asked next, by any of them and with any arguments, is answered or
fails in a way that is foreseen. An overflow is not, and of the errors of a database only the
missing wallet and the missing product are. -/
theorem backstops_are_unreachable :
    (∀ cause, (Failure.aborted cause).isForeseen = false) ∧
    (∀ detail, (Failure.refused (.storage detail)).isForeseen = false) ∧
    (∀ e : DatabaseError, (Failure.refused (.ofDatabase e)).isForeseen →
      ∃ entity id, e = .notFound entity id ∧ (entity = "Wallet" ∨ entity = "Product")) ∧
    (∀ {users : List User} {supply : Supply} {shelf : Shelf} {w : World Memory},
      Leads Memory.Undisturbed ⟨⟨.opening users supply, none⟩, shelf⟩ w →
      ∀ {s : Services (StateM (World Memory))}, Memory.Undisturbed s →
      ∀ (r : Request) (e : Failure), (s.serve r w).1 = .error e → e.isForeseen) ∧
    ∀ {rows : List UserRow} {supply : Supply} {enforced : Bool} {pool : Pool} {shelf : Shelf}
      {w : World Database}, pool.IsFree →
      Leads Database.Undisturbed ⟨.opening rows supply [] enforced pool, shelf⟩ w →
      ∀ {s : Services (StateM (World Database))}, Database.Undisturbed s →
      ∀ (r : Request) (e : Failure), (s.serve r w).1 = .error e → e.isForeseen := by
  refine ⟨fun _ => rfl, fun _ => rfl, fun _ => Failure.eq_notFound_of_isForeseen,
    fun leads s undisturbed r => ?_, fun free leads s undisturbed r => ?_⟩
  · have regular (s : Services (StateM (World Memory))) (h : Memory.Undisturbed s) :
        ∃ pace : Pace, Regular Memory.manner (fun (m : Memory) b => m = ⟨b, none⟩)
          (fun _ answered late => late = pace.lateness answered) s.store := by
      obtain ⟨⟨pace, same⟩, -⟩ := h
      exact ⟨pace, same ▸ Memory.store_regular pace⟩
    obtain ⟨b, held, solvent⟩ := leads.solvent
      (fun s h => ⟨(regular s h).choose_spec.faithful, h.2⟩) rfl (Books.opening_solvent _ _)
    exact serve_foreseen (regular s undisturbed).choose_spec undisturbed.2 held solvent r
  · have regular (s : Services (StateM (World Database))) (h : Database.Undisturbed s) :
        Regular Database.manner (Stage True) (fun _ _ _ => True) s.store := by
      obtain ⟨⟨cutoff, same⟩, -⟩ := h
      exact same ▸ Database.storeOn_regular cutoff
    obtain ⟨b, held, solvent⟩ := leads.solvent
      (fun s h => ⟨(regular s h).faithful, h.2⟩)
      ⟨Database.opening_keeps .., fun _ => rfl, fun _ => free⟩ (Books.opening_solvent _ _)
    exact serve_foreseen (regular s undisturbed) undisturbed.2 held solvent r

/-- More than the balance is asked for after a deposit. -/
theorem withdrawals_beyond_the_balance_are_foreseen :
    (∃ w : World Memory, Leads Memory.Undisturbed ⟨⟨.opening [ada] .start, none⟩, .empty⟩ w ∧
      ∃ e, (Services.serve ⟨Memory.store .unlimited, .inWorld, ⟨0⟩⟩
        (.withdraw "u" ⟨2000⟩) w).1 = .error e ∧ e.isForeseen) ∧
    ∃ w : World Database, Leads Database.Undisturbed
        ⟨.opening [⟨ada, false⟩] .start [] true ⟨4, ⟨0⟩, true, false⟩, .empty⟩ w ∧
      ∃ e, (Services.serve ⟨(storeOn .smooth).map World.onStore, .inWorld, ⟨0⟩⟩
        (.withdraw "u" ⟨2000⟩) w).1 = .error e ∧ e.isForeseen := by
  have memory : Memory.Undisturbed ⟨Memory.store .unlimited, .inWorld, ⟨0⟩⟩ :=
    ⟨⟨_, rfl⟩, Cache.onShelf_aside _⟩
  have database : Database.Undisturbed ⟨(storeOn .smooth).map World.onStore, .inWorld, ⟨0⟩⟩ :=
    ⟨⟨none, rfl⟩, Cache.onShelf_aside _⟩
  have inMemory : Leads Memory.Undisturbed ⟨⟨.opening [ada] .start, none⟩, .empty⟩ _ :=
    leads_run memory [.initWallet "u", .deposit "u" ⟨1000⟩]
  have inDatabase : Leads Database.Undisturbed
      ⟨.opening [⟨ada, false⟩] .start [] true ⟨4, ⟨0⟩, true, false⟩, .empty⟩ _ :=
    leads_run database [.initWallet "u", .deposit "u" ⟨1000⟩]
  have free : Pool.IsFree ⟨4, ⟨0⟩, true, false⟩ := ⟨rfl, rfl⟩
  refine ⟨⟨_, inMemory, .refused (.insufficientBalance ⟨1000⟩ ⟨2000⟩), ?_⟩,
    ⟨_, inDatabase, .refused (.insufficientBalance ⟨1000⟩ ⟨2000⟩), ?_⟩⟩
  · exact ⟨by decide +kernel, backstops_are_unreachable.2.2.2.1 inMemory memory
      (.withdraw "u" ⟨2000⟩) _ (by decide +kernel)⟩
  · exact ⟨by decide +kernel, backstops_are_unreachable.2.2.2.2 free inDatabase database
      (.withdraw "u" ⟨2000⟩) _ (by decide +kernel)⟩

end WalletLedger
