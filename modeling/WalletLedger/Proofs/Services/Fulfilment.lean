import WalletLedger.Proofs.Services.Coherence
import WalletLedger.Proofs.Services.Movements

/-!
# What requests come to

`Books.fulfil` is the outcome of a request on books on their own: what it
answers, with which status, and what it leaves behind, or why it fails. Nothing
else decides but a deadline, which may stop a movement that is worth asking the
store for. A store is `Regular` when its calls come to what the books say, but
for movements that are late when they may be. Over such a store a request comes
to its outcome on the books, or it is a view that the cache answers
(`serve_fulfils`); without a cache it comes to its outcome (`serve_alone`).
-/

namespace WalletLedger

open Memory

namespace Memory.Books

variable {α β : Type} (how : Manner) (b : Books)

/-- The books that an outcome leaves behind. -/
def leaves : Except Failure (α × Books) → Books
  | .ok (_, after) => after
  | .error _ => b

/-- What a call comes to that may be late. -/
def comesTo (late : Option Duration) (call : StoreCall) : Except Failure (Reply × Books) :=
  match late with
  | some limit => .error (.refused (.ofDeadline limit))
  | none => b.respond how call

/-- What a request for a movement comes to. -/
def move (late : Option Duration) (m : Movement) : Except Failure (Outcome Reply × Books) :=
  match m.flaw? with
  | some e => .error (.refused e)
  | none => (b.comesTo how late m.call).map fun (reply, after) => (.created reply, after)

/-- The wallet of a user who has to have one. -/
def holding (user : String) : Except Failure Wallet := do
  Failure.ofCheck (Validation.userId user)
  match b.wallet? user with
  | some w => .ok (b.joined w)
  | none => .error (.refused (.walletNotFound user))

/-- What a request comes to: its outcome and the books after it, or its
failure. A movement may be late. -/
def fulfil (late : Option Duration) : Request → Except Failure (Outcome Reply × Books)
  | .initWallet user => do
    Failure.ofCheck (Validation.userId user)
    match b.wallet? user with
    | some w => .error (.refused (.walletAlreadyExists (b.joined w)))
    | none => .ok (.created (.wallet (b.joined (b.newWallet user))),
        (b.spend 1 1).addWallet (b.newWallet user))
  | .getWallet user => (b.holding user).map fun w => (.ok (.wallet w), b)
  | .balance user => (b.holding user).map fun w => (.ok (.money w.balance), b)
  | .listWallets => .ok (.ok (.wallets b.listWallets), b)
  | .deposit user amount => b.move how late (.deposit user amount)
  | .withdraw user amount => b.move how late (.withdraw user amount)
  | .purchase user id quantity => b.move how late (.purchase user id quantity)
  | .history user => do
    Failure.ofCheck (Validation.userId user)
    .ok (.ok (.entries (b.history user)), b)
  | .listEntries => .ok (.ok (.entries b.listEntries), b)
  | .listProducts => .ok (.ok (.products b.listProducts), b)
  | .getProduct id => (b.existing id).map fun p => (.ok (.product p), b)
  | .createProduct fields => do
    Failure.ofCheck (Validation.newProduct fields)
    (b.respond how (.insertProduct fields)).map fun (reply, after) => (.created reply, after)
  | .updateProduct id fields => do
    Failure.ofCheck (Validation.newProduct fields)
    let _ ← b.existing id
    (b.respond how (.updateProduct id fields)).map fun (reply, after) => (.ok reply, after)
  | .deleteProduct id => do
    let _ ← b.existing id
    (b.respond how (.deleteProduct id)).map fun (reply, after) => (.ok reply, after)

theorem fulfil_movement (late : Option Duration) (m : Movement) :
    b.fulfil how late m.request = b.move how late m := by
  cases m <;> rfl

variable {how b} in
/-- Only a movement that is worth asking the store for can be late. -/
theorem fulfil_of_prompt {late : Option Duration} {r : Request}
    (prompt : ∀ m, r.movement? = some m → m.flaw? = none → late = none) :
    b.fulfil how late r = b.fulfil how none r := by
  rcases movement : r.movement? with _ | m
  · cases r <;> first | rfl | cases movement
  · obtain rfl := Request.movement?_eq_some movement
    rw [fulfil_movement, fulfil_movement, move, move]
    rcases flaw : m.flaw? with _ | e
    · rw [prompt m movement flaw]
    · rfl

/-! ## What a request writes -/

theorem leaves_view (r : Except Failure α) (f : α → β) :
    b.leaves (r.map fun a => (f a, b)) = b := by
  rcases r with _ | _ <;> rfl

variable {how b} {late : Option Duration}

/-- A checked call is answered and told, or the books are left as they are. -/
theorem writes_respond (how : Manner) (tell : Reply → α) (call : StoreCall)
    (checked : call.Checked) :
    let after := b.leaves ((b.respond how call).map fun (reply, after) => (tell reply, after))
    after = b ∨ ∃ c reply, some call = some c ∧ c.Checked ∧ Step b c reply after := by
  rcases outcome : b.respond how call with e | ⟨reply, after⟩
  · exact .inl rfl
  · exact .inr ⟨call, reply, rfl, checked, respond_step outcome⟩

/-- A request leaves the books as they were, or its own call was answered, which is checked. -/
theorem fulfil_writes (r : Request) : b.leaves (b.fulfil how late r) = b ∨
    ∃ call reply, r.write? = some call ∧ call.Checked ∧
      Step b call reply (b.leaves (b.fulfil how late r)) := by
  have moves (m : Movement) : b.leaves (b.move how late m) = b ∨
      ∃ call reply, some m.call = some call ∧ call.Checked ∧
        Step b call reply (b.leaves (b.move how late m)) := by
    unfold move
    rcases flaw : m.flaw? with _ | e
    · rcases late with _ | limit
      · exact writes_respond how Outcome.created m.call (Movement.checked_of_no_flaw flaw)
      · exact .inl rfl
    · exact .inl rfl
  cases r with
  | initWallet user =>
    simp only [fulfil]
    rcases Failure.ofCheck (Validation.userId user) with e | _
    · exact .inl rfl
    · rcases vacant : b.wallet? user with _ | w
      · exact .inr ⟨.createWallet user, _, rfl, trivial, .createWallet vacant⟩
      · exact .inl rfl
  | getWallet | balance | getProduct => exact .inl (leaves_view ..)
  | listWallets | listEntries | listProducts => exact .inl rfl
  | history user =>
    simp only [fulfil]
    rcases Failure.ofCheck (Validation.userId user) with e | _ <;> exact .inl rfl
  | deposit user amount => exact moves (.deposit user amount)
  | withdraw user amount => exact moves (.withdraw user amount)
  | purchase user id quantity => exact moves (.purchase user id quantity)
  | createProduct fields =>
    simp only [fulfil]
    rcases valid : Validation.newProduct fields with e | _
    · exact .inl rfl
    · exact writes_respond how Outcome.created (.insertProduct fields) (bounds_of_newProduct valid)
  | updateProduct id fields =>
    simp only [fulfil]
    rcases valid : Validation.newProduct fields with e | _
    · exact .inl rfl
    · rcases b.existing id with e | _
      · exact .inl rfl
      · exact writes_respond how Outcome.ok (.updateProduct id fields) (bounds_of_newProduct valid)
  | deleteProduct id =>
    simp only [fulfil]
    rcases b.existing id with e | _
    · exact .inl rfl
    · exact writes_respond how Outcome.ok (.deleteProduct id) trivial

/-- A request gives nothing back to the supply. -/
theorem fulfil_supply_le (how : Manner) (late : Option Duration) (r : Request) :
    b.supply ≤ (b.leaves (b.fulfil how late r)).supply := by
  have writes : b.leaves (b.fulfil how late r) = b ∨ _ := fulfil_writes r
  rcases writes with same | ⟨call, reply, -, -, step⟩
  · rw [same]
    exact Supply.le_refl b.supply
  · exact step.supply_le

theorem fulfil_solvent (solvent : b.Solvent) (r : Request) :
    (b.leaves (b.fulfil how late r)).Solvent := by
  have onward : b.Onward (b.leaves (b.fulfil how late r)) :=
    (fulfil_writes r).imp id fun ⟨call, reply, _, checked, step⟩ => ⟨call, reply, checked, step⟩
  exact onward.solvent solvent

end Memory.Books

/-! ## Regular stores -/

section Regular

variable {S α : Type} {how : Manner} {holds : S → Books → Prop} {store : Store (StateM (World S))}
  {tempo : Movement → Bool → Option Duration → Prop} {w : World S} {b : Books}

/-- Calls of a store come to what the books say, and a movement may also be
late; how late is up to the movement and to whether it would be answered. -/
structure Regular (how : Manner) (holds : S → Books → Prop)
    (tempo : Movement → Bool → Option Duration → Prop) (store : Store (StateM (World S))) : Prop
    extends Truthful how holds store where
  prompt : ∀ limit call {w b}, holds w.store b → b.WellFormed → b.InBounds → call.Checked →
    call.movement? = none → (store.perform limit call w).1 = (b.respond how call).map Prod.fst
  moved : ∀ limit m {w b}, holds w.store b → b.WellFormed → b.InBounds →
    (Movement.call m).Checked → ∃ late, tempo m (b.respond how m.call).isOk late ∧
      (store.perform limit m.call w).1 = (b.comesTo how late m.call).map Prod.fst

/-- A call that comes to what the books say, or fails, leaves what it comes to. -/
theorem Truthful.leaves (h : Truthful how holds store) {limit : Option Duration} {call : StoreCall}
    (held : holds w.store b) (wf : b.WellFormed) (late : Option Duration)
    (comes : (store.perform limit call w).1 = (b.comesTo how late call).map Prod.fst) :
    holds (store.perform limit call w).2.store (b.leaves (b.comesTo how late call)) := by
  have spec := h.faithful limit call w b held wf
  rcases run : store.perform limit call w with ⟨e | reply, w'⟩ <;> rw [run] at spec comes
  · rcases outcome : b.comesTo how late call with e' | ⟨reply, after⟩ <;> rw [outcome] at comes
    · exact spec.1
    · cases comes
  · obtain ⟨b', answered, held'⟩ := spec
    rcases late with _ | limit
    · rw [show b.comesTo how none call = _ from answered]
      exact held'
    · cases comes

end Regular

/-! ## Requests -/

section Serve

variable {S α : Type} {how : Manner} {holds : S → Books → Prop} {s : Services (StateM (World S))}
  {tempo : Movement → Bool → Option Duration → Prop} {w : World S} {b : Books}

/-- An attempt in a world answers an outcome, and the store holds what it leaves. -/
def Comes (holds : S → Books → Prop) (b : Books) (outcome : Except Failure (α × Books))
    (run : Except Failure α × World S) : Prop :=
  run.1 = outcome.map Prod.fst ∧ holds run.2.store (b.leaves outcome)

/-- The cache answers, and the store holds what it held. -/
def Recalls (holds : S → Books → Prop) (b : Books) (cache : Cache (StateM (World S)))
    (run : Except Failure α × World S) : Prop :=
  (∃ a, run.1 = .ok a) ∧ holds run.2.store b ∧ ∃ key w, (cache.get key w).1 ≠ none

theorem findWallet_apply (truthful : Truthful how holds s.store) (held : holds w.store b)
    (wf : b.WellFormed) (user : String) : s.findWallet user w = (b.holding user, w) := by
  unfold Services.findWallet Books.holding
  rcases Validation.userId user with e | _
  · rfl
  · show (s.store.walletByUser (some s.limit) user >>= Services.orRefuse _) w = _
    rw [Attempt.bind_apply, truthful.walletByUser held wf]
    cases b.wallet? user <;> rfl

/-- A view is answered as the books say, or by the cache. -/
theorem view_comes [Codec α] (aside : s.cache.Aside) (held : holds w.store b) (key : String)
    {read : Attempt (StateM (World S)) α} {r : Except Failure α} (f : α → Reply)
    (reads : ∀ w, holds w.store b → read w = (r, w)) :
    Comes holds b (r.map fun a => (.ok (f a), b)) ((Outcome.map f <$> s.readThrough key read) w) ∨
      Recalls holds b s.cache ((Outcome.map f <$> s.readThrough key read) w) := by
  have still : holds (s.cache.get key w).2.store b := (aside.get key w).symm ▸ held
  rw [Attempt.map_apply, readThrough_apply]
  rcases found : (s.cache.get key w).1.bind (Codec.read? (α := α)) with _ | a
  · left
    simp only [reads _ still]
    rcases r with e | a
    · exact ⟨rfl, still⟩
    · refine ⟨rfl, ?_⟩
      show holds (s.cache.set key (Codec.write a) (s.cache.get key w).2).2.store b
      rw [aside.set]
      exact still
  · refine .inr ⟨⟨_, rfl⟩, still, key, w, fun missing => ?_⟩
    rw [missing] at found
    cases found

/-- A call, and then what neither fails nor writes to the store. -/
theorem write_comes {β γ : Type} {call : StoreCall} {x : Attempt (StateM (World S)) α}
    {f : α → Reply} (eq : s.store.perform none call = f <$> x)
    {outcome : Except Failure (Reply × Books)}
    (comes : Comes holds b outcome (s.store.perform none call w))
    {rest : α → Attempt (StateM (World S)) β} {g : β → γ} (tell : Reply → γ)
    (goes : ∀ a after w', outcome = .ok (f a, after) → holds w'.store after →
      ∃ c, (rest a w').1 = .ok c ∧ g c = tell (f a) ∧ holds (rest a w').2.store after) :
    Comes holds b (outcome.map fun (reply, after) => (tell reply, after))
      ((g <$> (x >>= rest)) w) := by
  rw [eq, Attempt.map_apply] at comes
  obtain ⟨answers, left⟩ := comes
  rw [Attempt.map_apply, Attempt.bind_apply]
  rcases run : x w with ⟨e | a, w'⟩ <;> rw [run] at answers left <;>
    rcases outcome with e' | ⟨reply, after⟩ <;> cases answers
  · exact ⟨rfl, left⟩
  · obtain ⟨c, answered, told, left⟩ := goes a after w' rfl left
    exact ⟨(congrArg (Except.map g) answered).trans (congrArg Except.ok told), left⟩

/-- Nothing but views is taken out of the cache, and an outcome is told. -/
theorem forget_goes {β γ : Type} (aside : s.cache.Aside) (keys : List String) (done : Outcome β)
    {g : Outcome β → γ} {c : γ} (told : g done = c) {w' : World S} {after : Books}
    (left : holds w'.store after) :
    ∃ o, ((do s.forget keys; return done : Attempt (StateM (World S)) (Outcome β)) w').1 = .ok o ∧
      g o = c ∧
      holds ((do s.forget keys; return done : Attempt (StateM (World S)) (Outcome β)) w').2.store
        after := by
  refine ⟨done, rfl, told, ?_⟩
  show holds (s.forget keys w').2.store after
  rw [forget_store aside]
  exact left

/-- An attempt that leaves the world alone and is only told. -/
theorem read_comes {β γ : Type} {x : Attempt (StateM (World S)) α} {r : Except Failure α}
    (held : holds w.store b) (reads : x w = (r, w)) (g : α → β) (f : β → γ) :
    Comes holds b (r.map fun a => (f (g a), b)) ((f <$> (g <$> x)) w) := by
  rw [Attempt.map_apply, Attempt.map_apply, reads]
  rcases r with e | a <;> exact ⟨rfl, held⟩

/-- After a check only what passed it goes on. -/
theorem check_comes {β : Type} {c : Validation.Check} {x : Unit → Attempt (StateM (World S)) α}
    {g : α → β} {outcome : Except Failure (β × Books)} (held : holds w.store b)
    (passed : c = .ok () → Comes holds b outcome ((g <$> x ()) w)) :
    Comes holds b (Failure.ofCheck c >>= fun _ => outcome)
      ((g <$> (Services.check c >>= x)) w) := by
  rcases c with e | _
  · exact ⟨rfl, held⟩
  · exact passed rfl

/-- What was looked up has to be there for the rest to go on. -/
theorem found_comes {β γ : Type} {x : Attempt (StateM (World S)) α} {r : Except Failure α}
    {f : α → Attempt (StateM (World S)) β} {g : β → γ} {outcome : Except Failure (γ × Books)}
    (held : holds w.store b) (reads : x w = (r, w))
    (there : ∀ a, r = .ok a → Comes holds b outcome ((g <$> f a) w)) :
    Comes holds b (r >>= fun _ => outcome) ((g <$> (x >>= f)) w) := by
  rw [Attempt.map_apply, Attempt.bind_apply, reads]
  rcases r with e | a
  · exact ⟨rfl, held⟩
  · have rest := there a rfl
    rw [Attempt.map_apply] at rest
    exact rest

variable (regular : Regular how holds tempo s.store) (aside : s.cache.Aside)
  (held : holds w.store b) (wf : b.WellFormed)

include regular held wf

theorem perform_comes (inBounds : b.InBounds) (call : StoreCall) (checked : call.Checked)
    (other : call.movement? = none) :
    Comes holds b (b.respond how call) (s.store.perform none call w) := by
  have answers := regular.prompt none call held wf inBounds checked other
  exact ⟨answers, regular.leaves held wf none answers⟩

include aside

theorem movement_comes (inBounds : b.InBounds) (m : Movement) :
    ∃ late, (m.flaw? = none → tempo m (b.respond how m.call).isOk late) ∧
      Comes holds b (b.fulfil how late m.request) (s.serve m.request w) := by
  simp only [Books.fulfil_movement, Books.move]
  rcases flaw : m.flaw? with _ | e
  · obtain ⟨late, timed, answers⟩ :=
      regular.moved none m held wf inBounds (Movement.checked_of_no_flaw flaw)
    have left := regular.leaves held wf late answers
    refine ⟨late, fun _ => timed, ?_⟩
    rcases run : s.store.perform none m.call w with ⟨e | reply, w'⟩ <;> rw [run] at answers left <;>
      rcases outcome : b.comesTo how late m.call with e' | ⟨reply', after⟩ <;>
      rw [outcome] at answers left <;> cases answers
    · rw [serve_failed flaw run]
      exact ⟨rfl, left⟩
    · obtain ⟨e, rfl⟩ := exists_entry (congrArg Prod.fst run)
      obtain ⟨told, store⟩ := serve_answered aside flaw run
      exact ⟨told, store.symm ▸ left⟩
  · refine ⟨none, nofun, ?_⟩
    rw [serve_flawed flaw]
    exact ⟨rfl, held⟩

theorem initWallet_comes (inBounds : b.InBounds) (user : String) :
    Comes holds b (b.fulfil how none (.initWallet user)) (s.serve (.initWallet user) w) := by
  refine check_comes held fun _ => ?_
  refine found_comes held (regular.walletByUser held wf) fun found eq => ?_
  cases eq
  rcases vacant : b.wallet? user with _ | existing
  · have made : Comes holds b
        (.ok (.wallet (b.newWallet user), (b.spend 1 1).addWallet (b.newWallet user)))
        (s.store.perform none (.createWallet user) w) := by
      have comes := perform_comes regular held wf inBounds (.createWallet user) trivial rfl
      rwa [Books.respond, vacant] at comes
    let wallet := b.joined (b.newWallet user)
    refine write_comes rfl made (fun _ => Outcome.created (Reply.wallet wallet))
      fun _ after w' outcome left => ?_
    obtain ⟨-, rfl⟩ := Prod.mk.inj (Except.ok.inj outcome)
    -- the wallet is there when it is looked for again
    have found : s.store.walletByUser (some s.limit) user w' = (.ok (some wallet), w') := by
      rw [regular.walletByUser left (wf.addWallet vacant), Books.wallet?_addWallet vacant]
      rfl
    rw [Attempt.bind_apply, found]
    exact forget_goes aside [Cache.walletsKey] (.created wallet) rfl left
  · exact ⟨rfl, held⟩

theorem createProduct_comes (inBounds : b.InBounds) (fields : NewProduct) :
    Comes holds b (b.fulfil how none (.createProduct fields))
      (s.serve (.createProduct fields) w) := by
  refine check_comes held fun valid => ?_
  have made := perform_comes regular held wf inBounds (.insertProduct fields)
    (bounds_of_newProduct valid) rfl
  exact write_comes rfl made Outcome.created fun p _ _ _ left =>
    forget_goes aside _ (.created p) rfl left

theorem updateProduct_comes (inBounds : b.InBounds) (id : String) (fields : NewProduct) :
    Comes holds b (b.fulfil how none (.updateProduct id fields))
      (s.serve (.updateProduct id fields) w) := by
  refine check_comes held fun valid => ?_
  refine found_comes held (regular.toTruthful.existingProduct held wf id) fun _ _ => ?_
  have made := perform_comes regular held wf inBounds (.updateProduct id fields)
    (bounds_of_newProduct valid) rfl
  exact write_comes rfl made Outcome.ok fun p _ _ _ left => forget_goes aside _ (.ok p) rfl left

theorem other_comes (inBounds : b.InBounds) {r : Request} (other : r.movement? = none) :
    Comes holds b (b.fulfil how none r) (s.serve r w) ∨ Recalls holds b s.cache (s.serve r w) := by
  have truthful := regular.toTruthful
  cases r with
  | deposit | withdraw | purchase => cases other
  | initWallet user => exact .inl (initWallet_comes regular aside held wf inBounds user)
  | getWallet user =>
    exact .inl (read_comes held (findWallet_apply truthful held wf user) Outcome.ok _)
  | balance user =>
    exact .inl (read_comes held (findWallet_apply truthful held wf user)
      (fun w => Outcome.ok w.balance) _)
  | listWallets =>
    exact view_comes aside held _ .wallets (r := .ok b.listWallets) fun _ held =>
      truthful.listWallets held wf
  | history user =>
    refine .inl (check_comes held fun _ => ?_)
    exact read_comes held (truthful.history held wf) Outcome.ok _
  | listEntries =>
    exact view_comes aside held _ .entries (r := .ok b.listEntries) fun _ held =>
      truthful.listEntries held wf
  | listProducts =>
    exact view_comes aside held _ .products (r := .ok b.listProducts) fun _ held =>
      truthful.listProducts held wf
  | getProduct id =>
    exact view_comes aside held _ .product (r := b.existing id) fun _ held =>
      truthful.existingProduct held wf id
  | createProduct fields =>
    exact .inl (createProduct_comes regular aside held wf inBounds fields)
  | updateProduct id fields =>
    exact .inl (updateProduct_comes regular aside held wf inBounds id fields)
  | deleteProduct id =>
    refine .inl (found_comes held (truthful.existingProduct held wf id) fun _ _ => ?_)
    have made := perform_comes regular held wf inBounds (.deleteProduct id) trivial rfl
    exact write_comes rfl made Outcome.ok fun p _ _ _ left => forget_goes aside _ (.ok p) rfl left

/-- A request comes to its outcome on the books, or the cache answers it. -/
theorem serve_fulfils (inBounds : b.InBounds) (r : Request) :
    ∃ late, (∀ m, r.movement? = some m → m.flaw? = none →
        tempo m (b.respond how m.call).isOk late) ∧
      (Comes holds b (b.fulfil how late r) (s.serve r w) ∨
        Recalls holds b s.cache (s.serve r w)) := by
  rcases movement : r.movement? with _ | m
  · exact ⟨none, nofun, other_comes regular aside held wf inBounds movement⟩
  · obtain rfl := Request.movement?_eq_some movement
    obtain ⟨late, timed, comes⟩ := movement_comes regular aside held wf inBounds m
    refine ⟨late, fun m' same => ?_, .inl comes⟩
    obtain rfl := Option.some.inj same
    exact timed

omit aside in
/-- Without a cache a request comes to its outcome on the books. -/
theorem serve_alone (uncached : s.cache = .absent) (inBounds : b.InBounds) (r : Request) :
    ∃ late, (∀ m, r.movement? = some m → m.flaw? = none →
        tempo m (b.respond how m.call).isOk late) ∧
      Comes holds b (b.fulfil how late r) (s.serve r w) := by
  have aside : s.cache.Aside := uncached ▸ ⟨fun _ _ => rfl, fun _ _ _ => rfl, fun _ _ => rfl⟩
  obtain ⟨late, timed, comes | ⟨-, -, key, w, found⟩⟩ :=
    serve_fulfils regular aside held wf inBounds r
  · exact ⟨late, timed, comes⟩
  · exact absurd (by rw [uncached]; rfl) found

end Serve

end WalletLedger
