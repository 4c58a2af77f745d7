import WalletLedger.Proofs.Services.Catalog
import WalletLedger.Proofs.Spellings

/-!
# Products and the texts that name them

A product is found under its very identifier and under no other text: not under
another spelling of the same UUID either, which the check in front of the store
accepts (`Services.Identifies`). The check hides no product, because
identifiers are spellings of UUIDs themselves. So it is wherever the cache is
honest about products, whatever else it holds (`identifies`).
-/

namespace WalletLedger

open Memory

/-! ## Requests about one product -/

/-- A request of the catalog looks for a product, with valid fields if it has any. -/
def Request.LooksFor (id : String) : Request → Prop
  | .getProduct text | .deleteProduct text => text = id
  | .updateProduct text fields => text = id ∧ fields.IsSound
  | _ => False

/-- There is a live product of this very identifier. -/
def Memory.Books.Lists (b : Books) (id : String) : Prop :=
  ∃ p, ⟨p, false⟩ ∈ b.articles ∧ p.id = id

section Identity

variable {S : Type} {how : Manner} {holds : S → Books → Prop} {s : Services (StateM (World S))}
  {tempo : Movement → Bool → Option Duration → Prop} {w : World S} {b : Books}
  {id : String} {r : Request}

/-- What becomes of a request that names a product otherwise than by its
identifier: it fails, nothing is stored, and what the cache has under the key of
the product stays as it is. -/
structure Services.Overlooks (s : Services (StateM (World S))) (w : World S) (p : Product)
    (r : Request) : Prop where
  failed : ∃ e, (s.serve r w).1 = .error e
  store : (s.serve r w).2.store = w.store
  shelf : (s.serve r w).2.shelf.get? (Cache.productKey p.id) =
    w.shelf.get? (Cache.productKey p.id)

/-- How services tell the products of books apart. -/
structure Services.Identifies (s : Services (StateM (World S))) (w : World S) (b : Books) :
    Prop where
  /-- A live product is answered under its identifier. -/
  found : ∀ p, ⟨p, false⟩ ∈ b.articles →
    (s.serve (.getProduct p.id) w).1 = .ok (.ok (.product p))
  /-- A product is looked for without success exactly when no live one has this identifier. -/
  exact : ∀ id r, Request.LooksFor id r →
    ((s.serve r w).1 = .error (.refused (.productNotFound id)) ↔ ¬ b.Lists id)
  /-- And if one has it, the request is carried out. -/
  served : ∀ id r, Request.LooksFor id r → b.Lists id → ∃ o, (s.serve r w).1 = .ok o
  /-- Another spelling of the identifier of a live product names no product. -/
  respelled : ∀ p, ⟨p, false⟩ ∈ b.articles → ∀ text, Uuid.Respells text p.id →
    ∀ r, r.subject? = some text → s.Overlooks w p r
  /-- A purchase under another spelling by a user with a wallet is refused for it, or late. -/
  bought : ∀ p, ⟨p, false⟩ ∈ b.articles → ∀ text, Uuid.Respells text p.id →
    ∀ user quantity, (b.wallet? user).isSome → (Movement.purchase user text quantity).flaw? = none →
      (s.serve (.purchase user text quantity) w).1 = .error (.refused (.productNotFound text)) ∨
      ∃ limit, (s.serve (.purchase user text quantity) w).1 = .error (.refused (.ofDeadline limit))

/-- Looking for a text leaves the texts under other keys alone. -/
def Cache.LooksAside (c : Cache (StateM (World S))) : Prop :=
  ∀ {key k w}, k ≠ key → (c.get key w).2.shelf.get? k = w.shelf.get? k

/-- What the cache answers for a product is what the books say. -/
def Services.Honest (s : Services (StateM (World S))) (w : World S) (b : Books) : Prop :=
  ∀ id p, (s.cache.get (Cache.productKey id) w).1.bind Codec.read? = some p → b.existing id = .ok p

/-- A call that fails leaves the store as it was. -/
def Restores (holds : S → Books → Prop) (store : Store (StateM (World S))) : Prop :=
  ∀ {limit call w b e}, holds w.store b → b.WellFormed →
    (store.perform limit call w).1 = .error e → (store.perform limit call w).2.store = w.store

/-! ## The books -/

theorem product?_eq_none_iff (wf : b.WellFormed) : b.product? id = none ↔ ¬ b.Lists id := by
  rw [Option.eq_none_iff_forall_ne_some]
  simp only [Books.Lists, ne_eq, wf.product?_eq_some_iff, not_exists]

/-- A canonical identifier is taken for a UUID. -/
theorem Supply.NamesUuids.spells {s : Supply} (h : s.NamesUuids) : s.SpellsUuids :=
  fun n taken => Uuid.isSpelling_iff.mpr <| by
    obtain ⟨ds, digits, -, written⟩ := h n taken
    exact ⟨.hyphenated, ds, digits, written⟩

/-- A live product is found: the check of its identifier hides none. -/
theorem exists_existing (wf : b.WellFormed) (names : b.supply.NamesUuids) (listed : b.Lists id) :
    ∃ p, b.existing id = .ok p := by
  obtain ⟨p, live, rfl⟩ := listed
  exact ⟨p, existing_of_live wf names.spells live⟩

/-- No product has an identifier that respells another one's. -/
theorem product?_of_respelled (wf : b.WellFormed) (names : b.supply.NamesUuids) {text : String}
    (respells : Uuid.Respells text id) : b.product? text = none := by
  refine (product?_eq_none_iff wf).mpr fun ⟨p, live, same⟩ => ?_
  obtain ⟨n, taken, _, -, stamp⟩ := wf.articles.exists_number (List.mem_map_of_mem live)
  have named : p.id = b.supply.source.id n := congrArg Stamp.id stamp
  refine Uuid.not_isCanonical_of_respells respells ?_
  rw [← same, named]
  exact names n taken

/-! ## Answers -/

/-- A product is answered as the books say. -/
theorem getProduct_answer (truthful : Truthful how holds s.store) (aside : s.cache.Aside)
    (held : holds w.store b) (wf : b.WellFormed) (honest : s.Honest w b) (id : String) :
    (s.serve (.getProduct id) w).1 = (b.existing id).map fun p => .ok (.product p) := by
  show ((Outcome.map Reply.product <$> s.getProduct id) w).1 = _
  rw [Attempt.map_apply, Services.getProduct, readThrough_apply]
  rcases recalled : (s.cache.get (Cache.productKey id) w).1.bind (Codec.read? (α := Product))
    with _ | p
  · have still : holds (s.cache.get (Cache.productKey id) w).2.store b :=
      (aside.get _ w).symm ▸ held
    simp only [truthful.existingProduct still wf id]
    cases b.existing id <;> rfl
  · rw [honest id p recalled]
    rfl

/-- A product that is not there is looked for in the cache, and missed. -/
theorem getProduct_missed (truthful : Truthful how holds s.store) (aside : s.cache.Aside)
    (held : holds w.store b) (wf : b.WellFormed) (honest : s.Honest w b)
    (missing : b.product? id = none) : s.serve (.getProduct id) w =
      (.error (.refused (.productNotFound id)), (s.cache.get (Cache.productKey id) w).2) := by
  show (Outcome.map Reply.product <$> s.getProduct id) w = _
  rw [Attempt.map_apply, Services.getProduct, readThrough_apply]
  rcases recalled : (s.cache.get (Cache.productKey id) w).1.bind (Codec.read? (α := Product))
    with _ | p
  · have still : holds (s.cache.get (Cache.productKey id) w).2.store b :=
      (aside.get _ w).symm ▸ held
    simp only [truthful.existingProduct still wf id, existing_of_missing missing]
    rfl
  · have := honest id p recalled
    rw [existing_of_missing missing] at this
    cases this

theorem deleteProduct_missed (truthful : Truthful how holds s.store) (held : holds w.store b)
    (wf : b.WellFormed) (missing : b.product? id = none) :
    s.serve (.deleteProduct id) w = (.error (.refused (.productNotFound id)), w) := by
  rw [Services.serve, Services.deleteProduct, Attempt.map_apply, Attempt.bind_apply,
    truthful.existingProduct held wf, existing_of_missing missing]
  rfl

/-- A purchase of a product that is not there fails: it is late, or there is no
such wallet, or no such product. -/
theorem purchase_missed (regular : Regular how holds tempo s.store) (held : holds w.store b)
    (solvent : b.Solvent) {user : String} {quantity : Int64}
    (sound : (Movement.purchase user id quantity).flaw? = none) (missing : b.product? id = none) :
    ∃ e w', s.store.perform none (Movement.purchase user id quantity).call w = (.error e, w') ∧
      ((b.wallet? user).isSome → e = .refused (.productNotFound id) ∨
        ∃ limit, e = .refused (.ofDeadline limit)) := by
  let m := Movement.purchase user id quantity
  obtain ⟨cause, hindered, named⟩ : ∃ cause, b.hindrance? m = some cause ∧
      ((b.wallet? user).isSome → cause = .productNotFound id) := by
    rcases owned : b.wallet? user with _ | wallet
    · exact ⟨.walletNotFound user, by simp only [Books.hindrance?, m, Movement.user, owned], nofun⟩
    · refine ⟨.productNotFound id, ?_, fun _ => rfl⟩
      simp only [Books.hindrance?, m, Movement.user, owned, Books.shortfall?, missing]
  have refused : b.respond how m.call = _ :=
    Books.respond_of_hindrance solvent.inBounds sound hindered
  obtain ⟨late, -, answers⟩ := regular.moved none m held solvent.wellFormed solvent.inBounds
    (Movement.checked_of_no_flaw sound)
  rcases run : s.store.perform none m.call w with ⟨r, w'⟩
  rw [run] at answers
  rcases late with _ | limit
  · obtain rfl : r = .error (.refused cause) := by
      rw [show r = _ from answers, show b.comesTo how none m.call = _ from refused]
      rfl
    exact ⟨_, w', rfl, fun holder => .inl (congrArg Failure.refused (named holder))⟩
  · obtain rfl : r = .error (.refused (.ofDeadline limit)) := answers
    exact ⟨_, w', rfl, fun _ => .inr ⟨limit, rfl⟩⟩

/-! ## Products told apart -/

/-- A request that names a product that is not there fails, stores nothing and
leaves the texts under other keys alone. -/
theorem overlooks_missing (regular : Regular how holds tempo s.store)
    (restores : Restores holds s.store) (aside : s.cache.Aside) (looksAside : s.cache.LooksAside)
    (held : holds w.store b) (solvent : b.Solvent) (honest : s.Honest w b) {p : Product}
    (missing : b.product? id = none) (other : id ≠ p.id) (names : r.subject? = some id) :
    s.Overlooks w p r := by
  have wf := solvent.wellFormed
  have untouched {e : Failure} (ends : s.serve r w = (.error e, w)) : s.Overlooks w p r := by
    exact ⟨⟨e, congrArg Prod.fst ends⟩, by rw [ends], by rw [ends]⟩
  cases r with
  | getProduct text =>
    obtain rfl : text = id := Option.some.inj names
    have ends := getProduct_missed regular.toTruthful aside held wf honest missing
    exact {
      failed := ⟨_, congrArg Prod.fst ends⟩
      store := by rw [ends, aside.get]
      shelf := by rw [ends, looksAside fun same => other (productKey_inj same).symm] }
  | updateProduct text fields =>
    obtain rfl : text = id := Option.some.inj names
    rcases flaw : fields.flaw? with _ | e
    · exact untouched (serve_missingProduct regular.toTruthful held wf
        (NewProduct.flaw?_eq_none.mp flaw) missing)
    · exact untouched ((serve_flawedFields flaw).2 text)
  | deleteProduct text =>
    obtain rfl : text = id := Option.some.inj names
    exact untouched (deleteProduct_missed regular.toTruthful held wf missing)
  | purchase user text quantity =>
    obtain rfl : text = id := Option.some.inj names
    rcases flaw : (Movement.purchase user text quantity).flaw? with _ | e
    · obtain ⟨e, w', failed, -⟩ := purchase_missed regular held solvent flaw missing
      have ends : s.serve (.purchase user text quantity) w = (.error e, w') :=
        serve_failed flaw failed
      have store := restores held wf (congrArg Prod.fst failed)
      have shelf := regular.aside none (Movement.purchase user text quantity).call w
      rw [failed] at store shelf
      exact {
        failed := ⟨e, congrArg Prod.fst ends⟩
        store := by rw [ends]; exact store
        shelf := by rw [ends]; exact congrArg (Shelf.get? · (Cache.productKey p.id)) shelf }
    · exact untouched (serve_flawed flaw)
  | _ => cases names

/-- A request that looks for a live product is carried out. -/
theorem served_of_live (regular : Regular how holds tempo s.store) (aside : s.cache.Aside)
    (held : holds w.store b) (solvent : b.Solvent) (honest : s.Honest w b) {p : Product}
    (found : b.existing id = .ok p) (looks : Request.LooksFor id r) :
    ∃ o, (s.serve r w).1 = .ok o := by
  have wf := solvent.wellFormed
  cases r with
  | getProduct text =>
    obtain rfl : text = id := looks
    rw [getProduct_answer regular.toTruthful aside held wf honest, found]
    exact ⟨_, rfl⟩
  | deleteProduct text =>
    obtain rfl : text = id := looks
    have live := (Books.existing_eq_ok found).2
    have outcome : b.fulfil how none (.deleteProduct text) = .ok (.ok .nothing,
        (b.spend 0 how.deletionLooks).setArticle text fun a => { a with deleted := true }) := by
      simp only [Books.fulfil, found, Books.respond, live]
      rfl
    have still : (Request.deleteProduct text).movement? = none := rfl
    rcases other_comes regular aside held wf solvent.inBounds still with
      ⟨comes, -⟩ | ⟨recalled, -⟩
    · rw [comes, outcome]
      exact ⟨_, rfl⟩
    · exact recalled
  | updateProduct text fields =>
    obtain ⟨rfl, sound⟩ := looks
    have comes := updateProduct_comes regular aside held wf solvent.inBounds text fields
    rw [Books.fulfil_updateProduct, NewProduct.flaw?_eq_none.mpr sound, found] at comes
    exact ⟨_, comes.1⟩
  | _ => cases looks

/-- A request that looks for a product that is not there is refused for it. -/
theorem refused_of_missing (truthful : Truthful how holds s.store) (aside : s.cache.Aside)
    (held : holds w.store b) (wf : b.WellFormed) (honest : s.Honest w b)
    (missing : b.product? id = none) (looks : Request.LooksFor id r) :
    (s.serve r w).1 = .error (.refused (.productNotFound id)) := by
  cases r with
  | getProduct text =>
    obtain rfl : text = id := looks
    rw [getProduct_missed truthful aside held wf honest missing]
  | deleteProduct text =>
    obtain rfl : text = id := looks
    rw [deleteProduct_missed truthful held wf missing]
  | updateProduct text fields =>
    obtain ⟨rfl, sound⟩ := looks
    rw [serve_missingProduct truthful held wf sound missing]
  | _ => cases looks

/-- Services tell products apart wherever the cache is honest about them. -/
theorem identifies (regular : Regular how holds tempo s.store) (restores : Restores holds s.store)
    (aside : s.cache.Aside) (looksAside : s.cache.LooksAside) (held : holds w.store b)
    (solvent : b.Solvent) (uuids : b.supply.NamesUuids) (honest : s.Honest w b) :
    s.Identifies w b where
  found p live := by
    rw [getProduct_answer regular.toTruthful aside held solvent.wellFormed honest,
      existing_of_live solvent.wellFormed uuids.spells live]
    rfl
  exact id r looks := by
    have wf := solvent.wellFormed
    by_cases listed : b.Lists id
    · obtain ⟨p, found⟩ := exists_existing wf uuids listed
      obtain ⟨o, answered⟩ := served_of_live regular aside held solvent honest found looks
      rw [answered]
      exact iff_of_false nofun (not_not_intro listed)
    · have missing := (product?_eq_none_iff wf).mpr listed
      exact iff_of_true
        (refused_of_missing regular.toTruthful aside held wf honest missing looks) listed
  served id r looks listed := by
    obtain ⟨p, found⟩ := exists_existing solvent.wellFormed uuids listed
    exact served_of_live regular aside held solvent honest found looks
  respelled p live text respells r names :=
    overlooks_missing regular restores aside looksAside held solvent honest
      (product?_of_respelled solvent.wellFormed uuids respells) respells.other names
  bought p live text respells user quantity holder sound := by
    obtain ⟨e, w', failed, causes⟩ := purchase_missed regular held solvent sound
      (product?_of_respelled solvent.wellFormed uuids respells)
    have ends : s.serve (.purchase user text quantity) w = (.error e, w') :=
      serve_failed sound failed
    rw [ends]
    rcases causes holder with rfl | ⟨limit, rfl⟩
    · exact .inl rfl
    · exact .inr ⟨limit, rfl⟩

/-- Nothing but the live products and who has a wallet tells. -/
theorem Services.Identifies.ofRows {b' : Books} (h : s.Identifies w b)
    (live : ∀ p, ⟨p, false⟩ ∈ b'.articles ↔ ⟨p, false⟩ ∈ b.articles)
    (wallets : b'.wallets = b.wallets) : s.Identifies w b' := by
  have listed (id : String) : b'.Lists id ↔ b.Lists id := by
    simp only [Books.Lists, live]
  refine ⟨fun p mem => h.found p ((live p).mp mem), fun id r looks => ?_,
    fun id r looks there => h.served id r looks ((listed id).mp there),
    fun p mem => h.respelled p ((live p).mp mem),
    fun p mem text respells user quantity holder => ?_⟩
  · rw [listed]
    exact h.exact id r looks
  · refine h.bought p ((live p).mp mem) text respells user quantity ?_
    rwa [Books.wallet?, wallets] at holder

end Identity

end WalletLedger
