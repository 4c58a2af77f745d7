import WalletLedger.Proofs.Attempts
import WalletLedger.Proofs.Books.Balance
import WalletLedger.Proofs.Books.Bounds
import WalletLedger.Proofs.Services.Checks
import WalletLedger.Service.Request
import WalletLedger.World

/-!
# How requests move the books

A store is `Faithful` when it holds books and its calls come to what
`Books.respond` says of them, or are refused. Over such a store a request that
reads is `Quiet`, and one that writes has its `Request.Effect`: its one call was
answered if the request is, and it was not if the request fails, but for a wallet
that was made and could not be read back (`serve_carries`). So a request moves
the books by one checked call at most (`serve_moves`). Either way no arithmetic
stops it, when the books are sound and in bounds.
-/

namespace WalletLedger

open Memory

/-- The call by which a request writes. -/
def Request.write? : Request → Option StoreCall
  | .initWallet user => some (.createWallet user)
  | .deposit user amount => some (.deposit user amount)
  | .withdraw user amount => some (.withdraw user amount)
  | .purchase user id quantity => some (.purchase user id quantity)
  | .createProduct fields => some (.insertProduct fields)
  | .updateProduct id fields => some (.updateProduct id fields)
  | .deleteProduct id => some (.deleteProduct id)
  | _ => none

/-- The text by which a request names a product. -/
def Request.subject? : Request → Option String
  | .getProduct id | .updateProduct id _ | .deleteProduct id | .purchase _ id _ => some id
  | _ => none

/-- Whether an answer was not stopped by arithmetic. -/
def Runs {α : Type} (r : Except Failure α) : Prop := ∀ e, r = .error e → e.isRefusal

theorem runs_refuse {α : Type} (e : LedgerError) :
    Runs (.error (.refused e) : Except Failure α) := by
  rintro _ ⟨⟩
  rfl

theorem Runs.of_error {α β : Type} {e : Failure} (h : Runs (.error e : Except Failure α)) :
    Runs (.error e : Except Failure β) := by
  rintro _ ⟨⟩
  exact h e rfl

theorem Runs.map {α β : Type} {r : Except Failure α} (h : Runs r) (f : α → β) :
    Runs (r.map f) := by
  rcases r with e | a
  · exact h.of_error
  · exact fun _ failed => by cases failed

namespace Memory.Books

/-- Sound books in bounds. -/
structure Solvent (b : Books) : Prop extends b.Sound where
  inBounds : b.InBounds

/-- The books are as they were, or a checked call was answered. -/
def Onward (b b' : Books) : Prop :=
  b' = b ∨ ∃ call reply, call.Checked ∧ Step b call reply b'

theorem opening_solvent (users : List User) (supply : Supply) : (opening users supply).Solvent :=
  ⟨.opening users supply, opening_inBounds users supply⟩

theorem Onward.solvent {b b' : Books} (h : b.Onward b') (solvent : b.Solvent) : b'.Solvent := by
  rcases h with rfl | ⟨call, reply, checked, step⟩
  · exact solvent
  · have reconciled := step.reconciled solvent.wellFormed solvent.reconciled
    exact ⟨⟨step.wellFormed solvent.wellFormed, reconciled⟩, step.inBounds checked solvent.inBounds⟩

/-- An entry that a step leads to was there, or it is new; a new purchase has
the price that the product had before the step. -/
theorem Step.new_entry {b b' : Books} {call : StoreCall} {reply : Reply}
    (h : Step b call reply b') (wf : b.WellFormed) {e : Entry} (he : e ∈ b'.entries) :
    e ∈ b.entries ∨ e ∉ b.entries ∧ ∀ id quantity amount, e.kind = .purchase id quantity amount →
      ∃ p, b.product? id = some p ∧ amount.value = quantity.toInt * p.price.value := by
  have fresh (walletId : String) (kind : EntryKind) (look : Nat) :
      b.newEntry walletId kind look ∉ b.entries :=
    fun mem => wf.fresh_entry (List.mem_map_of_mem mem)
  cases h with
  | deposit =>
    rcases List.mem_append.mp he with he | he
    · exact .inl he
    · obtain rfl := List.mem_singleton.mp he
      exact .inr ⟨fresh _ _ _, fun _ _ _ kind => by cases kind⟩
  | withdraw =>
    rcases List.mem_append.mp he with he | he
    · exact .inl he
    · obtain rfl := List.mem_singleton.mp he
      exact .inr ⟨fresh _ _ _, fun _ _ _ kind => by cases kind⟩
  | purchase holder live inStock priced =>
    rcases List.mem_append.mp he with he | he
    · exact .inl he
    · obtain rfl := List.mem_singleton.mp he
      refine .inr ⟨fresh _ _ _, fun id quantity amount kind => ?_⟩
      cases kind
      exact ⟨_, live, priced.trans (Int.mul_comm _ _)⟩
  | _ => exact .inl he

theorem Onward.new_entry {b b' : Books} (h : b.Onward b') (wf : b.WellFormed) {e : Entry}
    (he : e ∈ b'.entries) :
    e ∈ b.entries ∨ e ∉ b.entries ∧ ∀ id quantity amount, e.kind = .purchase id quantity amount →
      ∃ p, b.product? id = some p ∧ amount.value = quantity.toInt * p.price.value := by
  rcases h with rfl | ⟨call, reply, -, step⟩
  · exact .inl he
  · exact step.new_entry wf he

end Memory.Books

/-- What a request has done to books, given how it ended. -/
inductive Request.Effect {α : Type} (r : Request) (b : Books) : Except Failure α → Books → Prop
  | nothing {result : Except Failure α} (idle : r.write? = none ∨ ∃ e, result = .error e) :
    Effect r b result b
  | written {a : α} {call : StoreCall} {reply : Reply} {b' : Books} (writes : r.write? = some call)
    (checked : call.Checked) (step : Books.Step b call reply b') : Effect r b (.ok a) b'
  /-- A wallet was made, but could not be read back. -/
  | stranded {e : Failure} {user : String} {reply : Reply} {b' : Books}
    (makes : r = .initWallet user) (step : Books.Step b (.createWallet user) reply b') :
    Effect r b (.error e) b'

/-- A failure has the same effects, whatever was to be answered. -/
theorem Request.Effect.of_error {α β : Type} {r : Request} {b b' : Books} {e : Failure}
    (h : r.Effect b (.error e : Except Failure α) b') :
    r.Effect b (.error e : Except Failure β) b' := by
  cases h with
  | nothing => exact .nothing (.inr ⟨e, rfl⟩)
  | stranded makes step => exact .stranded makes step

/-- Whatever a request has done, the books are as they were or went on by one checked call. -/
theorem Request.Effect.onward {α : Type} {r : Request} {b b' : Books} {result : Except Failure α}
    (h : r.Effect b result b') : b.Onward b' := by
  cases h with
  | nothing => exact .inl rfl
  | written _ checked step => exact .inr ⟨_, _, checked, step⟩
  | stranded _ step => exact .inr ⟨.createWallet _, _, trivial, step⟩

/-- Calls of a store that holds books come to what the books say, or are refused. -/
def Faithful {S : Type} (how : Manner) (holds : S → Books → Prop)
    (store : Store (StateM (World S))) : Prop :=
  ∀ limit call w b, holds w.store b → b.WellFormed →
    match store.perform limit call w with
    | (.ok reply, w') => ∃ b', b.respond how call = .ok (reply, b') ∧ holds w'.store b'
    | (.error e, w') => holds w'.store b ∧ (e.isRefusal ∨ b.respond how call = .error e)

section Moves

variable {S α β : Type} {how : Manner} {holds : S → Books → Prop}

/-- An attempt leaves the books of the store alone, and no arithmetic stops it. -/
def Quiet (holds : S → Books → Prop) (x : Attempt (StateM (World S)) α) : Prop :=
  ∀ w b, holds w.store b → b.Solvent → holds (x w).2.store b ∧ Runs (x w).1

/-- An attempt has the effects of a request, and no arithmetic stops it. -/
def Carries (holds : S → Books → Prop) (r : Request) (x : Attempt (StateM (World S)) α) : Prop :=
  ∀ w b, holds w.store b → b.Solvent →
    (∃ b', r.Effect b (x w).1 b' ∧ holds (x w).2.store b') ∧ Runs (x w).1

/-- An attempt moves the books of the store once at most, and no arithmetic stops it. -/
def Moves (holds : S → Books → Prop) (x : Attempt (StateM (World S)) α) : Prop :=
  ∀ w b, holds w.store b → b.Solvent →
    (∃ b', b.Onward b' ∧ holds (x w).2.store b') ∧ Runs (x w).1

variable {r : Request}

theorem Carries.moves {x : Attempt (StateM (World S)) α} (h : Carries holds r x) :
    Moves holds x := by
  intro w b held solvent
  obtain ⟨⟨b', effect, held'⟩, runs⟩ := h w b held solvent
  exact ⟨⟨b', effect.onward, held'⟩, runs⟩

/-! ## Rules -/

theorem Quiet.bind {x : Attempt (StateM (World S)) α} {f : α → Attempt (StateM (World S)) β}
    (hx : Quiet holds x) (hf : ∀ a, Quiet holds (f a)) : Quiet holds (x >>= f) := by
  intro w b held solvent
  have first := hx w b held solvent
  rw [Attempt.bind_apply]
  rcases hw : x w with ⟨e | a, w'⟩ <;> rw [hw] at first
  · exact ⟨first.1, fun _ h => by cases h; exact first.2 e rfl⟩
  · exact hf a w' b first.1 solvent

theorem Quiet.map {x : Attempt (StateM (World S)) α} (f : α → β) (hx : Quiet holds x) :
    Quiet holds (f <$> x) := by
  intro w b held solvent
  obtain ⟨held', runs⟩ := hx w b held solvent
  rw [Attempt.map_apply]
  exact ⟨held', runs.map f⟩

theorem quiet_pure (a : α) : Quiet holds (pure a : Attempt (StateM (World S)) α) :=
  fun _ _ held _ => ⟨held, fun _ h => by cases h⟩

theorem quiet_refuse (e : LedgerError) :
    Quiet holds (throw (.refused e) : Attempt (StateM (World S)) α) :=
  fun _ _ held _ => ⟨held, runs_refuse e⟩

theorem quiet_orRefuse (e : LedgerError) (a : Option α) :
    Quiet holds (Services.orRefuse e a : Attempt (StateM (World S)) α) := by
  cases a
  · exact quiet_refuse e
  · exact quiet_pure _

theorem quiet_lift {x : StateM (World S) α} (h : ∀ w, (x w).2.store = w.store) :
    Quiet holds (liftM x : Attempt (StateM (World S)) α) := by
  intro w b held _
  rw [Attempt.lift_apply]
  refine ⟨?_, fun _ h => by cases h⟩
  rw [h w]
  exact held

/-- After a check only what passed it goes on. -/
theorem quiet_check {c : Validation.Check} {f : Unit → Attempt (StateM (World S)) β}
    (h : c = .ok () → Quiet holds (f ())) : Quiet holds (Services.check c >>= f) := by
  rcases c with e | _
  · exact quiet_refuse (.validation e)
  · exact h rfl

theorem Quiet.carries {x : Attempt (StateM (World S)) α} (h : Quiet holds x)
    (reads : r.write? = none) : Carries holds r x :=
  fun w b held solvent =>
    ⟨⟨b, .nothing (.inl reads), (h w b held solvent).1⟩, (h w b held solvent).2⟩

theorem Quiet.carries_bind {x : Attempt (StateM (World S)) α}
    {f : α → Attempt (StateM (World S)) β} (hx : Quiet holds x) (hf : ∀ a, Carries holds r (f a)) :
    Carries holds r (x >>= f) := by
  intro w b held solvent
  have first := hx w b held solvent
  rw [Attempt.bind_apply]
  rcases run : x w with ⟨e | a, w'⟩ <;> rw [run] at first
  · exact ⟨⟨b, .nothing (.inr ⟨e, rfl⟩), first.1⟩, first.2.of_error⟩
  · exact hf a w' b first.1 solvent

theorem Carries.map {x : Attempt (StateM (World S)) α} (hx : Carries holds r x) (f : α → β) :
    Carries holds r (f <$> x) := by
  intro w b held solvent
  obtain ⟨⟨b', effect, held'⟩, runs⟩ := hx w b held solvent
  rw [Attempt.map_apply]
  refine ⟨⟨b', ?_, held'⟩, runs.map f⟩
  generalize (x w).1 = result at effect
  cases effect with
  | nothing idle => exact .nothing (idle.imp_right fun ⟨e, failed⟩ => ⟨e, by rw [failed]; rfl⟩)
  | written writes checked step => exact .written writes checked step
  | stranded makes step => exact .stranded makes step

/-- Reading a wallet back may fail, when it has been made. -/
theorem Carries.read_back {user : String} {x : Attempt (StateM (World S)) α}
    (hx : Carries holds (.initWallet user) x) {f : α → Attempt (StateM (World S)) β}
    (hf : ∀ a, Quiet holds (f a)) : Carries holds (.initWallet user) (x >>= f) := by
  intro w b held solvent
  obtain ⟨⟨b', effect, held'⟩, runs⟩ := hx w b held solvent
  rw [Attempt.bind_apply]
  rcases run : x w with ⟨e | a, w'⟩ <;> rw [run] at effect held' runs
  · exact ⟨⟨b', effect.of_error, held'⟩, runs.of_error⟩
  · cases effect with
    | nothing idle => rcases idle with reads | ⟨e, failed⟩ <;> contradiction
    | written writes checked step =>
      -- the wallet is there, whatever comes of reading it back
      obtain rfl := Option.some.inj writes
      have onward : b.Onward b' := .inr ⟨_, _, checked, step⟩
      obtain ⟨held, runs⟩ := hf a w' b' held' (onward.solvent solvent)
      refine ⟨⟨b', ?_, held⟩, runs⟩
      show Request.Effect _ b (f a w').1 b'
      rcases (f a w').1 with e | c
      · exact .stranded rfl step
      · exact .written rfl checked step

theorem carries_refuse (e : LedgerError) :
    Carries holds r (throw (.refused e) : Attempt (StateM (World S)) α) :=
  fun _ b held _ => ⟨⟨b, .nothing (.inr ⟨_, rfl⟩), held⟩, runs_refuse e⟩

theorem carries_check {c : Validation.Check} {f : Unit → Attempt (StateM (World S)) β}
    (h : c = .ok () → Carries holds r (f ())) : Carries holds r (Services.check c >>= f) := by
  rcases c with e | _
  · exact carries_refuse (.validation e)
  · exact h rfl

theorem carries_require {c : Except LedgerError Unit} {f : Unit → Attempt (StateM (World S)) β}
    (h : c = .ok () → Carries holds r (f ())) : Carries holds r (Services.require c >>= f) := by
  rcases c with e | _
  · exact carries_refuse e
  · exact h rfl

/-! ## Calls and views -/

variable {store : Store (StateM (World S))}

/-- A read is quiet. -/
theorem Faithful.quiet (faithful : Faithful how holds store) {limit : Option Duration}
    (call : StoreCall) {x : Attempt (StateM (World S)) α} (f : α → Reply)
    (eq : store.perform limit call = f <$> x) (reads : call.isRead) : Quiet holds x := by
  intro w b held solvent
  have spec := faithful limit call w b held solvent.wellFormed
  rw [eq, Attempt.map_apply, Books.respond_read reads] at spec
  rcases hw : x w with ⟨e | a, w'⟩ <;> rw [hw] at spec
  · refine ⟨spec.1, fun e' h => ?_⟩
    cases h
    exact spec.2.resolve_right (by simp)
  · obtain ⟨b', answered, held'⟩ := spec
    obtain ⟨-, rfl⟩ := by simpa using answered
    exact ⟨held', fun _ h => by cases h⟩

/-- The call by which a request writes. -/
theorem Faithful.carries (faithful : Faithful how holds store) (call : StoreCall)
    {x : Attempt (StateM (World S)) α} (f : α → Reply) (eq : store.perform none call = f <$> x)
    (writes : r.write? = some call) (checked : call.Checked) : Carries holds r x := by
  intro w b held solvent
  have spec := faithful none call w b held solvent.wellFormed
  rw [eq, Attempt.map_apply] at spec
  rcases hw : x w with ⟨e | a, w'⟩ <;> rw [hw] at spec
  · refine ⟨⟨b, .nothing (.inr ⟨e, rfl⟩), spec.1⟩, fun e' h => ?_⟩
    cases h
    rcases spec.2 with refused | stopped
    · exact refused
    · rcases e with _ | cause
      · rfl
      · exact absurd stopped (Books.respond_ne_aborted checked solvent.inBounds cause)
  · obtain ⟨b', answered, held'⟩ := spec
    exact ⟨⟨b', .written writes checked (Books.respond_step answered), held'⟩,
      fun _ h => by cases h⟩

/-- The operations of a cache leave the store alone. -/
structure Cache.Aside (c : Cache (StateM (World S))) : Prop where
  get : ∀ key w, (c.get key w).2.store = w.store
  set : ∀ key text w, (c.set key text w).2.store = w.store
  delete : ∀ key w, (c.delete key w).2.store = w.store

theorem Cache.onShelf_aside (c : Cache (StateM Shelf)) :
    Cache.Aside (c.map World.onShelf : Cache (StateM (World S))) :=
  ⟨fun _ _ => rfl, fun _ _ _ => rfl, fun _ _ => rfl⟩

variable {s : Services (StateM (World S))}

theorem forget_store (aside : s.cache.Aside) (keys : List String) (w : World S) :
    (s.forget keys w).2.store = w.store := by
  unfold Services.forget
  induction keys generalizing w with
  | nil => rfl
  | cons key keys ih => exact (ih _).trans (aside.delete key w)

theorem quiet_forget (aside : s.cache.Aside) (keys : List String) :
    Quiet holds (liftM (s.forget keys) : Attempt (StateM (World S)) Unit) :=
  quiet_lift (forget_store aside keys)

/-- Forgetting does not fail, so what was written before it is told. -/
theorem Carries.forget {x : Attempt (StateM (World S)) α} (hx : Carries holds r x)
    (aside : s.cache.Aside) (keys : α → List String) (f : α → β) :
    Carries holds r (x >>= fun a => liftM (s.forget (keys a)) >>= fun _ => pure (f a)) := by
  intro w b held solvent
  obtain ⟨⟨b', effect, held'⟩, runs⟩ := (hx.map f) w b held solvent
  rw [Attempt.map_apply] at effect held' runs
  rw [Attempt.bind_apply]
  rcases run : x w with ⟨e | a, w'⟩ <;> rw [run] at effect held' runs
  · exact ⟨⟨b', effect, held'⟩, runs⟩
  · exact ⟨⟨b', effect, (forget_store aside (keys a) w').symm ▸ held'⟩, runs⟩

theorem quiet_readThrough [Codec α] (aside : s.cache.Aside) (key : String)
    {read : Attempt (StateM (World S)) α} (quiet : Quiet holds read) :
    Quiet holds (s.readThrough key read) := by
  refine Quiet.bind (quiet_lift fun w => aside.get key w) fun found => ?_
  cases found with
  | some a => exact quiet_pure _
  | none =>
    refine quiet.bind fun a => ?_
    exact (quiet_lift fun w => aside.set _ _ w).bind fun _ => quiet_pure _

/-! ## Requests -/

theorem quiet_existingProduct (faithful : Faithful how holds s.store) (id : String) :
    Quiet holds (s.existingProduct id) := by
  unfold Services.existingProduct
  split
  · exact quiet_refuse _
  · exact (faithful.quiet (.productById id) _ rfl rfl).bind fun _ => quiet_orRefuse _ _

theorem quiet_walletByUser (faithful : Faithful how holds s.store) (user : String) :
    Quiet holds (s.store.walletByUser (some s.limit) user) :=
  faithful.quiet (.walletByUser user) _ rfl rfl

theorem quiet_findWallet (faithful : Faithful how holds s.store) (user : String) :
    Quiet holds (s.findWallet user) :=
  quiet_check fun _ => (quiet_walletByUser faithful user).bind fun _ => quiet_orRefuse _ _

/-- A request that writes nothing is quiet. -/
theorem quiet_read (faithful : Faithful how holds s.store) (aside : s.cache.Aside) {r : Request}
    (reads : r.write? = none) : Quiet holds (s.serve r) := by
  cases r with
  | getWallet user => exact ((quiet_findWallet faithful user).map _).map _
  | balance user => exact ((quiet_findWallet faithful user).map _).map _
  | listWallets =>
    exact (quiet_readThrough aside _ (faithful.quiet .listWallets _ rfl rfl)).map _
  | history user =>
    refine Quiet.map _ (quiet_check fun _ => ?_)
    exact (faithful.quiet (.history user) _ rfl rfl).map _
  | listEntries =>
    exact (quiet_readThrough aside _ (faithful.quiet .listEntries _ rfl rfl)).map _
  | listProducts =>
    exact (quiet_readThrough aside _ (faithful.quiet .listProducts _ rfl rfl)).map _
  | getProduct id => exact (quiet_readThrough aside _ (quiet_existingProduct faithful id)).map _
  | _ => cases reads

variable (faithful : Faithful how holds s.store) (aside : s.cache.Aside)

include faithful aside

theorem carries_initWallet (user : String) :
    Carries holds (.initWallet user) (s.initWallet user) := by
  refine carries_check fun _ => (quiet_walletByUser faithful user).carries_bind fun found => ?_
  cases found with
  | some w => exact carries_refuse _
  | none =>
    refine (faithful.carries (.createWallet user) _ rfl rfl trivial).read_back fun _ => ?_
    refine (quiet_walletByUser faithful user).bind fun found => ?_
    exact (quiet_orRefuse _ _).bind fun _ => (quiet_forget aside _).bind fun _ => quiet_pure _

/-- A request has its effects. -/
theorem serve_carries (r : Request) : Carries holds r (s.serve r) := by
  cases r with
  | initWallet user => exact (carries_initWallet faithful aside user).map _
  | deposit user amount =>
    refine (carries_check fun _ => carries_require fun valid => ?_).map _
    exact (faithful.carries (.deposit user amount) _ rfl rfl
      (positive_of_amount valid)).forget aside _ _
  | withdraw user amount =>
    refine (carries_check fun _ => carries_require fun valid => ?_).map _
    exact (faithful.carries (.withdraw user amount) _ rfl rfl
      (positive_of_amount valid)).forget aside _ _
  | purchase user id quantity =>
    refine (carries_check fun _ => carries_require fun valid => ?_).map _
    exact (faithful.carries (.purchase user id quantity) _ rfl rfl
      (positive_of_quantity valid)).forget aside _ _
  | createProduct fields =>
    refine (carries_check fun valid => ?_).map _
    exact (faithful.carries (.insertProduct fields) _ rfl rfl
      (bounds_of_newProduct valid)).forget aside _ _
  | updateProduct id fields =>
    refine (carries_check fun valid => ?_).map _
    refine (quiet_existingProduct faithful id).carries_bind fun _ => ?_
    exact (faithful.carries (.updateProduct id fields) _ rfl rfl
      (bounds_of_newProduct valid)).forget aside _ _
  | deleteProduct id =>
    refine ((quiet_existingProduct faithful id).carries_bind fun _ => ?_).map _
    exact (faithful.carries (.deleteProduct id) _ rfl rfl trivial).forget aside _ _
  | _ => exact (quiet_read faithful aside rfl).carries rfl

/-- A request moves the books once at most, and no arithmetic stops it. -/
theorem serve_moves (r : Request) : Moves holds (s.serve r) :=
  (serve_carries faithful aside r).moves

end Moves

end WalletLedger
