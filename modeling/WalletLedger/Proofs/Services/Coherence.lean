import WalletLedger.Proofs.Books.Views
import WalletLedger.Proofs.Services.Alike
import WalletLedger.Proofs.Services.Moves

/-!
# Services and a cache that forgets

A cache is `Forgetful` when it may lose every text at any time and drop every
text that it is given, but never answers another text than it was given last,
nor one that it was told to take away. A world `Displays` books when its store
holds them and its cache shows no view of them that is not as it should be.
Over a store that tells the truth (`Truthful`) every request leads from one
such world to another (`serve_coheres`): a read puts into the cache what the
books answer, and a write takes away all views that it makes stale. So what is
held under a key is what the store answers (`Displays.coherent`), and a view is
answered as if there were no cache (`Displays.transparent`), but for secrets.
-/

namespace WalletLedger

open Memory

/-! ## Caches that forget -/

namespace Shelf

variable {s : Shelf} {key k text : String}

theorem get?_erase : (s.erase key).get? k = if k = key then none else s.get? k := by
  obtain ⟨texts⟩ := s
  simp only [get?, erase]
  induction texts with
  | nil => simp
  | cons first texts ih =>
    obtain ⟨own, held⟩ := first
    by_cases gone : own = key
    · simp only [gone, ne_eq, not_true_eq_false, decide_false, Bool.false_eq_true,
        not_false_eq_true, List.filter_cons_of_neg, ih, List.lookup_cons]
      by_cases same : k = key
      · simp [same]
      · have other : (k == key) = false := by simpa using same
        simp [same, other]
    · simp only [ne_eq, gone, not_false_eq_true, decide_true, List.filter_cons_of_pos,
        List.lookup_cons]
      by_cases same : k = own
      · simp [same, gone]
      · have other : (k == own) = false := by simpa using same
        simp only [other]
        exact ih

theorem get?_insert : (s.insert key text).get? k = if k = key then some text else s.get? k := by
  show List.lookup k ((key, text) :: (s.erase key).texts) = _
  rw [List.lookup_cons]
  by_cases same : k = key
  · simp [same]
  · have rest : (s.erase key).get? k = _ := get?_erase
    rw [if_neg same] at rest ⊢
    have other : (k == key) = false := by simpa using same
    simp only [other]
    exact rest

end Shelf

section Caches

variable {S : Type} {s : Services (StateM (World S))} {w : World S} {key text : String}

/-- A cache that answers nothing but what it holds, loses what it likes, may
drop what it is given and takes away what it is told to. -/
structure Cache.Forgetful (c : Cache (StateM (World S))) : Prop extends c.Aside where
  answered : ∀ {key text w}, (c.get key w).1 = some text → w.shelf.get? key = some text
  kept : ∀ {key k text w}, (c.get key w).2.shelf.get? k = some text → w.shelf.get? k = some text
  given : ∀ {key new k text w}, (c.set key new w).2.shelf.get? k = some text →
    w.shelf.get? k = some text ∨ k = key ∧ text = new
  left : ∀ {key k text w}, (c.delete key w).2.shelf.get? k = some text →
    k ≠ key ∧ w.shelf.get? k = some text

/-- The cache that keeps everything is one of them. -/
theorem Cache.inWorld_forgetful : (Cache.inWorld : Cache (StateM (World S))).Forgetful where
  toAside := Cache.onShelf_aside _
  answered held := held
  kept held := held
  given {key new k text w} held := by
    have held : (w.shelf.insert key new).get? k = some text := held
    rw [Shelf.get?_insert] at held
    split at held
    · next own => exact .inr ⟨own, (Option.some.inj held).symm⟩
    · exact .inl held
  left {key k text w} held := by
    have held : (w.shelf.erase key).get? k = some text := held
    rw [Shelf.get?_erase] at held
    split at held
    · cases held
    · next other => exact ⟨other, held⟩

theorem forget_left (forgetful : s.cache.Forgetful) {keys : List String}
    (held : (s.forget keys w).2.shelf.get? key = some text) :
    key ∉ keys ∧ w.shelf.get? key = some text := by
  unfold Services.forget at held
  induction keys generalizing w with
  | nil => exact ⟨List.not_mem_nil, held⟩
  | cons first keys ih =>
    obtain ⟨absent, before⟩ := ih held
    obtain ⟨other, there⟩ := forgetful.left before
    exact ⟨List.not_mem_cons_of_ne_of_not_mem other absent, there⟩

end Caches

/-! ## Stores that tell the truth -/

section Truth

variable {S α β : Type} {how : Manner} {holds : S → Books → Prop} {store : Store (StateM (World S))}
  {w w' : World S} {b : Books}

/-- A faithful store that answers every read, and does not touch the cache. -/
structure Truthful (how : Manner) (holds : S → Books → Prop) (store : Store (StateM (World S))) :
    Prop where
  faithful : Faithful how holds store
  aside : ∀ limit call w, (store.perform limit call w).2.shelf = w.shelf
  read : ∀ limit call w b, holds w.store b → b.WellFormed → call.isRead →
    store.perform limit call w = (.ok (b.answer call), w)

theorem map_eq_ok {f : α → β} (distinct : ∀ a a', f a = f a' → a = a')
    {x : Attempt (StateM (World S)) α} {a : α}
    (mapped : (f <$> x : Attempt (StateM (World S)) β) w = (.ok (f a), w')) :
    x w = (.ok a, w') := by
  rw [Attempt.map_apply] at mapped
  rcases run : x w with ⟨e | a', w₁⟩ <;> rw [run] at mapped
  · cases congrArg Prod.fst mapped
  · obtain rfl := distinct _ _ (Except.ok.inj (congrArg Prod.fst mapped))
    obtain rfl : w₁ = w' := congrArg Prod.snd mapped
    rfl

namespace Truthful

variable {limit : Option Duration} {user id : String}

theorem walletByUser (h : Truthful how holds store) (held : holds w.store b) (wf : b.WellFormed) :
    store.walletByUser limit user w = (.ok ((b.wallet? user).map b.joined), w) :=
  map_eq_ok (Reply.ofOption_distinct (fun _ _ => Reply.wallet.inj) (by simp))
    (h.read limit (.walletByUser user) w b held wf rfl)

theorem productById (h : Truthful how holds store) (held : holds w.store b) (wf : b.WellFormed) :
    store.productById limit id w = (.ok (b.product? id), w) :=
  map_eq_ok (Reply.ofOption_distinct (fun _ _ => Reply.product.inj) (by simp))
    (h.read limit (.productById id) w b held wf rfl)

theorem listWallets (h : Truthful how holds store) (held : holds w.store b) (wf : b.WellFormed) :
    store.listWallets limit w = (.ok b.listWallets, w) :=
  map_eq_ok (fun _ _ => Reply.wallets.inj) (h.read limit .listWallets w b held wf rfl)

theorem listProducts (h : Truthful how holds store) (held : holds w.store b) (wf : b.WellFormed) :
    store.listProducts limit w = (.ok b.listProducts, w) :=
  map_eq_ok (fun _ _ => Reply.products.inj) (h.read limit .listProducts w b held wf rfl)

theorem listEntries (h : Truthful how holds store) (held : holds w.store b) (wf : b.WellFormed) :
    store.listEntries limit w = (.ok b.listEntries, w) :=
  map_eq_ok (fun _ _ => Reply.entries.inj) (h.read limit .listEntries w b held wf rfl)

theorem history (h : Truthful how holds store) (held : holds w.store b) (wf : b.WellFormed) :
    store.history limit user w = (.ok (b.history user), w) :=
  map_eq_ok (fun _ _ => Reply.entries.inj) (h.read limit (.history user) w b held wf rfl)

end Truthful

/-- What comes of looking for a product that has to be there. -/
def Memory.Books.existing (b : Books) (id : String) : Except Failure Product :=
  match Validation.uuid id, b.product? id with
  | .ok (), some p => .ok p
  | _, _ => .error (.refused (.productNotFound id))

theorem Truthful.existingProduct {s : Services (StateM (World S))} (h : Truthful how holds s.store)
    (held : holds w.store b) (wf : b.WellFormed) (id : String) :
    s.existingProduct id w = (b.existing id, w) := by
  unfold Services.existingProduct Memory.Books.existing
  rcases Validation.uuid id with _ | _
  · rfl
  · show (s.store.productById (some s.limit) id >>= Services.orRefuse _) w = _
    rw [Attempt.bind_apply, h.productById held wf]
    cases b.product? id <;> rfl

end Truth

/-! ## Worlds that display books -/

/-- Every text on a shelf shows the view of its key, unless the view is stale. -/
def Memory.Books.Shelved (b : Books) (stale : List View) (shelf : Shelf) : Prop :=
  ∀ v text, v ∉ stale → shelf.get? v.key = some text → v.IsNamed ∧ b.Shown v text

section Display

variable {S α β : Type} {how : Manner} {holds : S → Books → Prop} {w w' : World S} {b b' : Books}
  {stale : List View}

/-- The store of a world holds books, and as long as their clock gives valid times, the
cache shows them but for some stale views. -/
structure Displays (holds : S → Books → Prop) (stale : List View) (w : World S) (b : Books) :
    Prop where
  held : holds w.store b
  wellFormed : b.WellFormed
  timely : b.supply.IsTimely → b.IsTimely
  shelved : b.supply.IsTimely → b.Shelved stale w.shelf

/-- A step of the books makes the views of its call stale. -/
theorem Displays.step (d : Displays holds [] w b) {call : StoreCall} {reply : Reply}
    (step : Books.Step b call reply b') (held : holds w'.store b') (shelf : w'.shelf = w.shelf) :
    Displays holds call.stale w' b' := by
  have earlier (clock : b'.supply.IsTimely) : b.supply.IsTimely := clock.of_le step.supply_le
  refine ⟨held, step.wellFormed d.wellFormed,
    fun clock => step.stays_timely clock (d.timely (earlier clock)),
    fun clock v text fresh found => ?_⟩
  rw [shelf] at found
  obtain ⟨named, shown⟩ := d.shelved (earlier clock) v text List.not_mem_nil found
  exact ⟨named, step.shown fresh shown⟩

theorem Displays.forget {s : Services (StateM (World S))} (d : Displays holds stale w b)
    (forgetful : s.cache.Forgetful) (keys : List String) (covers : ∀ v ∈ stale, v.key ∈ keys) :
    Displays holds [] (s.forget keys w).2 b := by
  refine ⟨?_, d.wellFormed, d.timely, fun clock v text _ found => ?_⟩
  · rw [forget_store forgetful.toAside]
    exact d.held
  · obtain ⟨absent, there⟩ := forget_left forgetful found
    exact d.shelved clock v text (fun mem => absent (covers v mem)) there

/-! ## Rules -/

/-- An attempt leads from a world that displays books to another one. -/
def Coheres (holds : S → Books → Prop) (x : Attempt (StateM (World S)) α) : Prop :=
  ∀ w b, Displays holds [] w b → ∃ b', Displays holds [] (x w).2 b'

/-- An attempt leaves worlds that hold books as they are. -/
def Still (holds : S → Books → Prop) (x : Attempt (StateM (World S)) α) : Prop :=
  ∀ w b, holds w.store b → b.WellFormed → (x w).2 = w

theorem Still.coheres {x : Attempt (StateM (World S)) α} (h : Still holds x) : Coheres holds x :=
  fun w b d => ⟨b, (h w b d.held d.wellFormed).symm ▸ d⟩

theorem still_pure (a : α) : Still holds (pure a : Attempt (StateM (World S)) α) :=
  fun _ _ _ _ => rfl

theorem still_throw (e : Failure) : Still holds (throw e : Attempt (StateM (World S)) α) :=
  fun _ _ _ _ => rfl

theorem still_orRefuse (e : LedgerError) (a : Option α) :
    Still holds (Services.orRefuse e a : Attempt (StateM (World S)) α) := by
  cases a
  · exact still_throw _
  · exact still_pure _

theorem Still.bind {x : Attempt (StateM (World S)) α} {f : α → Attempt (StateM (World S)) β}
    (hx : Still holds x) (hf : ∀ a, Still holds (f a)) : Still holds (x >>= f) := by
  intro w b held wf
  have same := hx w b held wf
  rw [Attempt.bind_apply]
  rcases run : x w with ⟨e | a, w'⟩ <;> rw [run] at same <;> obtain rfl : w' = w := same
  · rfl
  · exact hf a w' b held wf

theorem Still.coheres_bind {x : Attempt (StateM (World S)) α}
    {f : α → Attempt (StateM (World S)) β} (hx : Still holds x) (hf : ∀ a, Coheres holds (f a)) :
    Coheres holds (x >>= f) := by
  intro w b d
  have same := hx w b d.held d.wellFormed
  rw [Attempt.bind_apply]
  rcases run : x w with ⟨e | a, w'⟩ <;> rw [run] at same <;> obtain rfl : w' = w := same
  · exact ⟨b, d⟩
  · exact hf a w' b d

theorem Coheres.map {x : Attempt (StateM (World S)) α} (f : α → β) (hx : Coheres holds x) :
    Coheres holds (f <$> x) := by
  intro w b d
  rw [Attempt.map_apply]
  exact hx w b d

theorem coheres_check {c : Validation.Check} {f : Unit → Attempt (StateM (World S)) β}
    (h : Coheres holds (f ())) : Coheres holds (Services.check c >>= f) := by
  rcases c with e | _
  · exact (still_throw _).coheres
  · exact h

theorem coheres_require {c : Except LedgerError Unit} {f : Unit → Attempt (StateM (World S)) β}
    (h : Coheres holds (f ())) : Coheres holds (Services.require c >>= f) := by
  rcases c with e | _
  · exact (still_throw _).coheres
  · exact h

/-- A write makes views stale, and what follows it takes them out of the cache. -/
theorem Truthful.coheres_write {store : Store (StateM (World S))}
    (truthful : Truthful how holds store) (call : StoreCall) {x : Attempt (StateM (World S)) α}
    (f : α → Reply) (eq : store.perform none call = f <$> x) {g : α → Attempt (StateM (World S)) β}
    (rest : ∀ a w b b', Books.Step b call (f a) b' → Displays holds call.stale w b' →
      Displays holds [] (g a w).2 b') : Coheres holds (x >>= g) := by
  intro w b d
  have spec := truthful.faithful none call w b d.held d.wellFormed
  have shelf := truthful.aside none call w
  rw [eq, Attempt.map_apply] at spec shelf
  rw [Attempt.bind_apply]
  rcases run : x w with ⟨e | a, w'⟩ <;> rw [run] at spec shelf
  · exact ⟨b, spec.1, d.wellFormed, d.timely, (show w'.shelf = _ from shelf) ▸ d.shelved⟩
  · obtain ⟨b', answered, held⟩ := spec
    have step := Books.respond_step answered
    exact ⟨b', rest a w' b b' step (d.step step held shelf)⟩

end Display

/-! ## Reads through the cache -/

/-- The request for a view. -/
def View.request : View → Request
  | .entries => .listEntries
  | .wallets => .listWallets
  | .products => .listProducts
  | .product id => .getProduct id

/-- A text is read as what a store answers to a view, but for secrets. -/
def Store.Shows {S : Type} (store : Store (StateM (World S))) (limit : Option Duration)
    (w : World S) : View → String → Prop
  | .entries, text => ∃ es, store.listEntries limit w = (.ok es, w) ∧ Codec.read? text = some es
  | .wallets, text => ∃ ws, store.listWallets limit w = (.ok ws, w) ∧
      Codec.read? text = some (ws.map Wallet.withoutSecret)
  | .products, text => ∃ ps, store.listProducts limit w = (.ok ps, w) ∧
      Codec.read? text = some ps
  | .product id, text => ∃ p, store.productById limit id w = (.ok (some p), w) ∧
      Codec.read? text = some p

/-- The reply without the secrets of identity records. -/
def Reply.withoutSecret : Reply → Reply
  | .wallet w => .wallet w.withoutSecret
  | .wallets ws => .wallets (ws.map Wallet.withoutSecret)
  | r => r

section Views

variable {S α : Type} [Codec α] {how : Manner} {holds : S → Books → Prop}
  {s : Services (StateM (World S))} {w : World S} {b : Books} {v : View}
  {read : Attempt (StateM (World S)) α} {r : Books → Except Failure α} {conceal : α → α}

theorem readThrough_apply (s : Services (StateM (World S))) (key : String)
    (read : Attempt (StateM (World S)) α) (w : World S) : s.readThrough key read w =
      match (s.cache.get key w).1.bind (Codec.read? (α := α)) with
      | some a => (.ok (.ok a), (s.cache.get key w).2)
      | none => match read (s.cache.get key w).2 with
        | (.ok a, w') => (.ok (.ok a), (s.cache.set key (Codec.write a) w').2)
        | (.error e, w') => (.error e, w') := by
  show (liftM (s.cache.find (α := α) key) >>= _ : Attempt (StateM (World S)) (Outcome α)) w = _
  rw [Attempt.bind_apply, Attempt.lift_apply]
  show (match (s.cache.get key w).1.bind (Codec.read? (α := α)) with
    | some a => (pure (.ok a) : Attempt (StateM (World S)) (Outcome α))
    | none => read >>= fun a => liftM (s.cache.put key a) >>= fun _ => pure (.ok a))
      (s.cache.get key w).2 = _
  rcases (s.cache.get key w).1.bind (Codec.read? (α := α)) with _ | a
  · simp only [Attempt.bind_apply]
    rcases read (s.cache.get key w).2 with ⟨e | a, w'⟩ <;> rfl
  · rfl

/-- Without a cache a read is only told as an outcome. -/
theorem readThrough_absent (s : Services (StateM (World S))) (key : String)
    (read : Attempt (StateM (World S)) α) (w : World S) :
    Services.readThrough { s with cache := .absent } key read w = (Outcome.ok <$> read) w := by
  rw [readThrough_apply, Attempt.map_apply]
  show (match read w with
    | (.ok a, w') => ((.ok (.ok a), w') : Except Failure (Outcome α) × World S)
    | (.error e, w') => (.error e, w')) = _
  rcases read w with ⟨e | a, w'⟩ <;> rfl

/-- A read answers a view: what the books say of it, which shows the view when it is
written, and which any text that shows the view is read as, but for secrets. -/
structure Reveals (holds : S → Books → Prop) (v : View) (read : Attempt (StateM (World S)) α)
    (r : Books → Except Failure α) (conceal : α → α) : Prop where
  reads : ∀ w b, holds w.store b → b.WellFormed → read w = (r b, w)
  shown : ∀ b a, b.IsTimely → r b = .ok a → v.IsNamed ∧ b.Shown v (Codec.write a)
  held : ∀ b text, v.IsNamed → b.Shown v text →
    ∃ a, r b = .ok a ∧ Codec.read? text = some (conceal a)

namespace Reveals

theorem coheres (h : Reveals holds v read r conceal) (forgetful : s.cache.Forgetful) :
    Coheres holds (s.readThrough v.key read) := by
  intro w b d
  refine ⟨b, ?_⟩
  have got : Displays holds [] (s.cache.get v.key w).2 b := by
    refine ⟨?_, d.wellFormed, d.timely, fun clock v text fresh found => ?_⟩
    · rw [forgetful.get]
      exact d.held
    · exact d.shelved clock v text fresh (forgetful.kept found)
  rw [readThrough_apply]
  split
  · exact got
  · rw [h.reads _ b got.held got.wellFormed]
    rcases answer : r b with e | a
    · exact got
    · refine ⟨?_, d.wellFormed, d.timely, fun clock v' text fresh found => ?_⟩
      · rw [forgetful.set]
        exact got.held
      · rcases forgetful.given found with there | ⟨own, rfl⟩
        · exact got.shelved clock v' text fresh there
        · rw [View.key_injective own]
          exact h.shown b a (d.timely clock) answer

/-- Through the cache a view is answered as the books say, but for secrets. -/
theorem answer (h : Reveals holds v read r conceal) (forgetful : s.cache.Forgetful)
    (d : Displays holds [] w b) (clock : b.supply.IsTimely) :
    (s.readThrough v.key read w).1 = (r b).map .ok ∨
      ∃ a, r b = .ok a ∧ (s.readThrough v.key read w).1 = .ok (.ok (conceal a)) := by
  rw [readThrough_apply]
  rcases found : (s.cache.get v.key w).1 with _ | text
  · left
    have held : holds (s.cache.get v.key w).2.store b := (forgetful.get v.key w).symm ▸ d.held
    simp only [Option.bind_none, h.reads _ b held d.wellFormed]
    rcases r b with e | a <;> rfl
  · right
    obtain ⟨named, shown⟩ :=
      d.shelved clock v text List.not_mem_nil (forgetful.answered found)
    obtain ⟨a, answer, reads⟩ := h.held b text named shown
    simp only [Option.bind_some, reads]
    exact ⟨a, answer, rfl⟩

/-- A view is answered as if there were no cache, but for secrets. -/
theorem transparent (h : Reveals holds v read r conceal) (forgetful : s.cache.Forgetful)
    (d : Displays holds [] w b) (clock : b.supply.IsTimely) (f : α → Reply)
    (concealed : ∀ a, (f (conceal a)).withoutSecret = (f a).withoutSecret) :
    ((Outcome.map f <$> s.readThrough v.key read) w).1.map (Outcome.map Reply.withoutSecret) =
      ((Outcome.map f <$> Services.readThrough { s with cache := .absent } v.key read) w).1.map
        (Outcome.map Reply.withoutSecret) := by
  rw [Attempt.map_apply, Attempt.map_apply, readThrough_absent, Attempt.map_apply,
    h.reads w b d.held d.wellFormed]
  rcases h.answer forgetful d clock with same | ⟨a, answer, hidden⟩
  · rw [same]
  · rw [hidden, answer]
    exact congrArg (fun reply => Except.ok (Outcome.ok reply)) (concealed a)

end Reveals

end Views

/-! ## Views of a truthful store -/

section Requests

variable {S : Type} {how : Manner} {holds : S → Books → Prop} {s : Services (StateM (World S))}
  {w : World S} {b b' : Books}

theorem Memory.Books.existing_eq_ok {id : String} {p : Product} (found : b.existing id = .ok p) :
    Validation.uuid id = .ok () ∧ b.product? id = some p := by
  unfold existing at found
  split at found
  · next q named live =>
    cases found
    exact ⟨named, live⟩
  · cases found

theorem reveals_entries {store : Store (StateM (World S))} (truthful : Truthful how holds store)
    (limit : Option Duration) :
    Reveals holds .entries (store.listEntries limit) (fun b => .ok b.listEntries) id where
  reads _ _ held wf := truthful.listEntries held wf
  shown _ _ timely answer := by
    cases answer
    exact ⟨trivial, timely.shown_entries⟩
  held _ _ _ shown := ⟨_, rfl, shown⟩

theorem reveals_wallets {store : Store (StateM (World S))} (truthful : Truthful how holds store)
    (limit : Option Duration) :
    Reveals holds .wallets (store.listWallets limit) (fun b => .ok b.listWallets)
      (·.map Wallet.withoutSecret) where
  reads _ _ held wf := truthful.listWallets held wf
  shown _ _ timely answer := by
    cases answer
    exact ⟨trivial, timely.shown_wallets⟩
  held _ _ _ shown := ⟨_, rfl, shown⟩

theorem reveals_products {store : Store (StateM (World S))} (truthful : Truthful how holds store)
    (limit : Option Duration) :
    Reveals holds .products (store.listProducts limit) (fun b => .ok b.listProducts) id where
  reads _ _ held wf := truthful.listProducts held wf
  shown _ _ timely answer := by
    cases answer
    exact ⟨trivial, timely.shown_products⟩
  held _ _ _ shown := ⟨_, rfl, shown⟩

theorem reveals_product (truthful : Truthful how holds s.store) (name : String) :
    Reveals holds (.product name) (s.existingProduct name) (·.existing name) id where
  reads _ _ held wf := truthful.existingProduct held wf name
  shown b p timely answer := by
    obtain ⟨named, live⟩ := Books.existing_eq_ok answer
    exact ⟨named, timely.shown_product live⟩
  held b _ named shown := by
    obtain ⟨p, live, reads⟩ := shown
    refine ⟨p, ?_, reads⟩
    rw [Books.existing, show Validation.uuid name = .ok () from named, live]

/-! ## Writes -/

theorem StoreCall.stale_of_isRead {call : StoreCall} (reads : call.isRead) : call.stale = [] := by
  cases call <;> first | rfl | cases reads

/-- The keys under which the services forget are those of the views that an entry makes stale. -/
theorem Memory.Books.Step.covered {call : StoreCall} {reply : Reply}
    (step : Step b call reply b') {e : Entry} (entry : reply = .entry e) :
    ∀ v ∈ call.stale, v.key ∈ Services.staleKeys e := by
  cases step with
  | read reads => simp [StoreCall.stale_of_isRead reads]
  | deposit | withdraw | purchase =>
    cases entry
    simp [StoreCall.stale, Services.staleKeys, EntryKind.productId?, newEntry, View.key]
  | _ => cases entry

theorem Memory.Books.wallet?_addWallet {user : String} (vacant : b.wallet? user = none) :
    ((b.spend 1 1).addWallet (b.newWallet user)).wallet? user = some (b.newWallet user) := by
  show (b.wallets ++ [b.newWallet user]).find? (·.userId == user) = _
  rw [List.find?_append, show b.wallets.find? (·.userId == user) = none from vacant]
  simp [newWallet]

variable (truthful : Truthful how holds s.store) (forgetful : s.cache.Forgetful)

include truthful

theorem still_walletByUser (user : String) :
    Still holds (s.store.walletByUser (some s.limit) user) :=
  fun _ _ held wf => congrArg Prod.snd (truthful.walletByUser held wf)

theorem still_existingProduct (id : String) : Still holds (s.existingProduct id) :=
  fun _ _ held wf => congrArg Prod.snd (truthful.existingProduct held wf id)

theorem still_findWallet (user : String) : Still holds (s.findWallet user) := by
  unfold Services.findWallet
  refine Still.bind ?_ fun _ => (still_walletByUser truthful user).bind fun _ => still_orRefuse _ _
  exact fun _ _ _ _ => rfl

include forgetful

theorem coheres_committed (call : StoreCall) {x : Attempt (StateM (World S)) Entry}
    (eq : s.store.perform none call = Reply.entry <$> x) : Coheres holds (x >>= s.committed) :=
  truthful.coheres_write call _ eq fun _ _ _ _ step d => d.forget forgetful _ (step.covered rfl)

theorem coheres_initWallet (user : String) : Coheres holds (s.initWallet user) := by
  refine coheres_check ((still_walletByUser truthful user).coheres_bind fun found => ?_)
  cases found with
  | some w => exact (still_throw _).coheres
  | none =>
    refine truthful.coheres_write (.createWallet user) _ rfl fun _ w b b' step d => ?_
    have found : ∃ wallet, b'.wallet? user = some wallet := by
      cases step with
      | createWallet vacant => exact ⟨_, Books.wallet?_addWallet vacant⟩
    obtain ⟨wallet, found⟩ := found
    rw [Attempt.bind_apply, truthful.walletByUser d.held d.wellFormed, found]
    exact d.forget forgetful [Cache.walletsKey] (by simp [StoreCall.stale, View.key])

/-- Every request leads from a world that displays books to another one. -/
theorem serve_coheres (r : Request) : Coheres holds (s.serve r) := by
  cases r with
  | initWallet user => exact (coheres_initWallet truthful forgetful user).map _
  | getWallet user => exact ((still_findWallet truthful user).coheres.map _).map _
  | balance user => exact ((still_findWallet truthful user).coheres.map _).map _
  | listWallets => exact ((reveals_wallets truthful _).coheres forgetful).map _
  | deposit user amount =>
    refine Coheres.map _ (coheres_check (coheres_require ?_))
    exact coheres_committed truthful forgetful (.deposit user amount) rfl
  | withdraw user amount =>
    refine Coheres.map _ (coheres_check (coheres_require ?_))
    exact coheres_committed truthful forgetful (.withdraw user amount) rfl
  | purchase user id quantity =>
    refine Coheres.map _ (coheres_check (coheres_require ?_))
    exact coheres_committed truthful forgetful (.purchase user id quantity) rfl
  | history user =>
    refine Coheres.map _ (coheres_check (Coheres.map _ (Still.coheres ?_)))
    exact fun _ _ held wf => congrArg Prod.snd (truthful.history held wf)
  | listEntries => exact ((reveals_entries truthful _).coheres forgetful).map _
  | listProducts => exact ((reveals_products truthful _).coheres forgetful).map _
  | getProduct id => exact ((reveals_product truthful id).coheres forgetful).map _
  | createProduct p =>
    refine Coheres.map _ (coheres_check ?_)
    refine truthful.coheres_write (.insertProduct p) _ rfl fun _ _ _ _ _ d => ?_
    exact d.forget forgetful [Cache.productsKey] (by simp [StoreCall.stale, View.key])
  | updateProduct id p =>
    refine Coheres.map _ (coheres_check ?_)
    refine (still_existingProduct truthful id).coheres_bind fun _ => ?_
    refine truthful.coheres_write (.updateProduct id p) _ rfl fun _ _ _ _ _ d => ?_
    exact d.forget forgetful [Cache.productsKey, Cache.productKey id]
      (by simp [StoreCall.stale, View.key])
  | deleteProduct id =>
    refine Coheres.map _ ((still_existingProduct truthful id).coheres_bind fun _ => ?_)
    refine truthful.coheres_write (.deleteProduct id) _ rfl fun _ _ _ _ _ d => ?_
    exact d.forget forgetful [Cache.productsKey, Cache.productKey id]
      (by simp [StoreCall.stale, View.key])

omit forgetful

/-! ## What a world that displays books answers -/

/-- What is held under the key of a view is what the store answers. -/
theorem Displays.coherent (d : Displays holds [] w b) (clock : b.supply.IsTimely)
    (limit : Option Duration) {v : View} {text : String}
    (found : w.shelf.get? v.key = some text) : s.store.Shows limit w v text := by
  obtain ⟨-, shown⟩ := d.shelved clock v text List.not_mem_nil found
  cases v with
  | entries => exact ⟨_, truthful.listEntries d.held d.wellFormed, shown⟩
  | wallets => exact ⟨_, truthful.listWallets d.held d.wellFormed, shown⟩
  | products => exact ⟨_, truthful.listProducts d.held d.wellFormed, shown⟩
  | product id =>
    obtain ⟨p, live, reads⟩ := shown
    exact ⟨p, live ▸ truthful.productById d.held d.wellFormed, reads⟩

/-- The request for a view is answered as if there were no cache. -/
theorem Displays.transparent (d : Displays holds [] w b) (forgetful : s.cache.Forgetful)
    (clock : b.supply.IsTimely) (v : View) :
    (s.serve v.request w).1.map (Outcome.map Reply.withoutSecret) =
      (Services.serve { s with cache := .absent } v.request w).1.map
        (Outcome.map Reply.withoutSecret) := by
  cases v with
  | entries =>
    exact (reveals_entries truthful _).transparent forgetful d clock .entries fun _ => rfl
  | wallets =>
    refine (reveals_wallets truthful _).transparent forgetful d clock .wallets fun ws => ?_
    have once (w : Wallet) : w.withoutSecret.withoutSecret = w.withoutSecret := by
      rcases owner : w.user with _ | u <;> simp [Wallet.withoutSecret, User.withoutSecret, owner]
    simp [Reply.withoutSecret, once]
  | products =>
    exact (reveals_products truthful _).transparent forgetful d clock .products fun _ => rfl
  | product id =>
    exact (reveals_product truthful id).transparent forgetful d clock .product fun _ => rfl

end Requests

end WalletLedger
