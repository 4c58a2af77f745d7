import WalletLedger.Proofs.Codec

/-!
# Which objects are ledger entries

The fields of an entry and of its kind lie side by side in one object, and the
member `type` says which of them count. An object `Spells` an entry out when
each field that counts is there once with the right value; it is read as that
entry exactly if, besides, all that it holds can be held (`decode_object_iff`).
So every complete object is read when its other members are scalars, in any
order and whatever those are (`complete_entries_are_read`).
-/

namespace WalletLedger.Codec

open Json

/-! ## Members of objects -/

section Members

variable {name : String} {ms ms' : List (Option String × Json)} {v : Json}

theorem field?_eq_some_iff : field? name ms = some (some v) ↔ named name ms = [v] := by
  unfold field?
  split <;> simp_all

theorem mem_named : v ∈ named name ms ↔ (some name, v) ∈ ms := by
  simp [named, List.mem_filterMap]

/-- A selection that keeps all members of a name keeps them in their order. -/
theorem named_filter {keeps : Option String × Json → Bool}
    (kept : ∀ v, keeps (some name, v) = true) :
    named name (ms.filter keeps) = named name ms := by
  induction ms with
  | nil => rfl
  | cons m ms ih =>
    obtain ⟨key, v⟩ := m
    by_cases own : key = some name
    · subst own
      simp only [List.filter_cons, kept, if_true, named, List.filterMap_cons]
      exact congrArg _ ih
    · have tail : named name ((key, v) :: ms) = named name ms := by simp [named, own]
      rw [tail, List.filter_cons]
      split
      · rw [← ih]
        simp [named, own]
      · exact ih

theorem named_eq_of_perm (perm : ms.Perm ms') (once : named name ms = [v]) :
    named name ms' = [v] := by
  have same : (named name ms).Perm (named name ms') := perm.filterMap _
  rw [once] at same
  exact List.perm_singleton.mp same.symm

theorem hasReadableKeys_iff : hasReadableKeys ms = true ↔ ∀ m ∈ ms, m.1.isSome := by
  simp [hasReadableKeys]

theorem membersAreHoldable_iff {room : Nat} :
    membersAreHoldable room ms = true ↔ ∀ m ∈ ms, m.1.isSome ∧ isHoldable room m.2 := by
  induction ms with
  | nil => simp [membersAreHoldable]
  | cons m ms ih =>
    obtain ⟨key, v⟩ := m
    simp [membersAreHoldable, ih, and_assoc]

end Members

/-! ## Values of fields -/

section Values

variable {outer : Nat} {j : Json} {field : Option Json}

theorem decoded_string {s : String} : decodeWithin? outer j = some s ↔ j = Json.text s := by
  cases j <;> simp [decodeWithin?, Json.text]

theorem decoded_int64 {n : Int64} :
    decodeWithin? outer j = some n ↔ j = Json.integer n.toInt := by
  cases j with
  | number literal =>
    cases literal with
    | integer value =>
      show fit? value = some n ↔ _
      rw [fit?_eq_some_iff]
      simp [Json.integer, eq_comm]
    | decimal => simp [decodeWithin?, Json.integer]
  | _ => simp [decodeWithin?, Json.integer]

theorem decoded_money {m : Money} :
    decodeWithin? outer j = some m ↔ j = Json.integer m.value := by
  show (decodeWithin? outer j : Option Int64).map Money.mk = some m ↔ _
  obtain ⟨cents⟩ := m
  simp [decoded_int64, Money.value]

theorem decoded_timestamp {t : Timestamp} : decodeWithin? outer j = some t ↔
    ∃ s, j = Json.text s ∧ Timestamp.read? s = some t := by
  cases j with
  | string value => cases value <;> simp [decodeWithin?, Json.text]
  | _ => simp [decodeWithin?, Json.text]

theorem required_eq_some_iff {α : Type} [Codec α] {a : α} :
    required outer field = some a ↔ ∃ j, field = some j ∧ decodeWithin? (outer + 1) j = some a :=
  Option.bind_eq_some_iff

end Values

/-! ## Kinds -/

/-- A purchase has a product and a quantity. -/
theorem eq_purchase_of_type {k : EntryKind} (type : k.type = .purchase) :
    ∃ p q, k.productId? = some p ∧ k.quantity? = some q ∧ k = .purchase p q k.amount := by
  cases k with
  | purchase p q a => exact ⟨p, q, rfl, rfl, rfl⟩
  | deposit | withdraw => cases type

theorem type_of_productId? {k : EntryKind} {p : String} (product : k.productId? = some p) :
    k.type = .purchase := by
  cases k with
  | purchase => rfl
  | deposit | withdraw => cases product

theorem type_of_quantity? {k : EntryKind} {q : Int64} (quantity : k.quantity? = some q) :
    k.type = .purchase := by
  cases k with
  | purchase => rfl
  | deposit | withdraw => cases quantity

section Kinds

variable {outer : Nat} {ms : List (Option String × Json)}

/-- An object has the fields of a kind, each of them once. -/
structure SpellsKind (ms : List (Option String × Json)) (k : EntryKind) : Prop where
  amount : named "amount" ms = [Json.integer k.amount.value]
  product : ∀ p, k.productId? = some p → named "product_id" ms = [Json.text p]
  quantity : ∀ q, k.quantity? = some q → named "quantity" ms = [Json.integer q.toInt]

/-- A required field is read off an object that names it once. -/
theorem field?_required_iff {α : Type} [Codec α] {name : String} {a : α} :
    (∃ field, field? name ms = some field ∧ required outer field = some a) ↔
      ∃ j, named name ms = [j] ∧ decodeWithin? (outer + 1) j = some a := by
  simp only [required_eq_some_iff]
  constructor
  · rintro ⟨_, found, j, rfl, read⟩
    exact ⟨j, field?_eq_some_iff.mp found, read⟩
  · rintro ⟨j, once, read⟩
    exact ⟨some j, field?_eq_some_iff.mpr once, j, rfl, read⟩

/-- The fields of an object with readable keys are read one by one. -/
theorem fields?_object {names : List String} (readable : hasReadableKeys ms = true) :
    fields? names (.object ms) = names.mapM fun name => field? name ms :=
  if_pos readable

theorem readable_of_fields? {names : List String} {fields : List (Option Json)}
    (found : fields? names (.object ms) = some fields) : hasReadableKeys ms = true := by
  simp only [fields?, Option.ite_none_right_eq_some] at found
  exact found.1

/-- A kind that has nothing but an amount is read off the amount. -/
theorem amount_only_iff {t : EntryType} {k : EntryKind} (make : Money → EntryKind)
    (fields : kindFields t = ["amount"])
    (reads : ∀ field, kindOfFields? outer t [field] = (required outer field).map make)
    (made : ∀ k : EntryKind, k.type = t ↔ ∃ amount, make amount = k)
    (bare : ∀ amount, (make amount).amount = amount ∧ (make amount).productId? = none ∧
      (make amount).quantity? = none) :
    ((kindFields t).mapM fun name => field? name ms).bind (kindOfFields? outer t) = some k ↔
      k.type = t ∧ SpellsKind ms k := by
  have read : ((kindFields t).mapM fun name => field? name ms).bind (kindOfFields? outer t) =
      (field? "amount" ms).bind fun field => (required outer field).map make := by
    simp only [fields, List.mapM_cons, List.mapM_nil]
    cases field? "amount" ms with
    | none => rfl
    | some field => exact reads field
  have once (amount : Money) :
      (∃ field, field? "amount" ms = some field ∧ required outer field = some amount) ↔
        named "amount" ms = [Json.integer amount.value] := by
    simp only [field?_required_iff, decoded_money, exists_eq_right]
  simp only [read, Option.bind_eq_some_iff, Option.map_eq_some_iff, made]
  constructor
  · rintro ⟨field, found, amount, value, rfl⟩
    obtain ⟨own, noProduct, noQuantity⟩ := bare amount
    refine ⟨⟨amount, rfl⟩, ?_, fun p sold => ?_, fun q sold => ?_⟩
    · rw [own]
      exact (once amount).mp ⟨field, found, value⟩
    · cases noProduct.symm.trans sold
    · cases noQuantity.symm.trans sold
  · rintro ⟨⟨amount, rfl⟩, spells⟩
    have own := spells.amount
    rw [(bare amount).1] at own
    obtain ⟨field, found, value⟩ := (once amount).mpr own
    exact ⟨field, found, amount, value, rfl⟩

theorem kindOfMembers?_eq_some_iff {t : EntryType} {k : EntryKind}
    (readable : hasReadableKeys ms = true) :
    kindOfMembers? outer t ms = some k ↔ k.type = t ∧ SpellsKind ms k := by
  have fields : fields? (kindFields t) (.object ms) = _ := fields?_object readable
  simp only [kindOfMembers?, fields]
  cases t with
  | deposit =>
    refine amount_only_iff .deposit rfl (fun _ => rfl) (fun k => ?_) fun _ => ⟨rfl, rfl, rfl⟩
    cases k <;> simp [EntryKind.type]
  | withdraw =>
    refine amount_only_iff .withdraw rfl (fun _ => rfl) (fun k => ?_) fun _ => ⟨rfl, rfl, rfl⟩
    cases k <;> simp [EntryKind.type]
  | purchase =>
    have reads : ((kindFields .purchase).mapM fun name => field? name ms).bind
        (kindOfFields? outer .purchase) = some k ↔ ∃ p q a,
        (∃ field, field? "product_id" ms = some field ∧ required outer field = some p) ∧
        (∃ field, field? "quantity" ms = some field ∧ required outer field = some q) ∧
        (∃ field, field? "amount" ms = some field ∧ required outer field = some a) ∧
        EntryKind.purchase p q a = k := by
      simp only [kindFields, List.mapM_cons, List.mapM_nil]
      cases field? "product_id" ms <;> cases field? "quantity" ms <;>
        cases field? "amount" ms <;> simp [kindOfFields?, Option.bind_eq_some_iff]
    refine reads.trans ?_
    simp only [field?_required_iff, decoded_string, decoded_int64, decoded_money, exists_eq_right]
    constructor
    · rintro ⟨p, q, a, product, quantity, amount, rfl⟩
      refine ⟨rfl, amount, fun _ same => ?_, fun _ same => ?_⟩
      · cases same
        exact product
      · cases same
        exact quantity
    · rintro ⟨type, spells⟩
      cases k with
      | purchase p q a =>
        exact ⟨p, q, a, spells.product p rfl, spells.quantity q rfl, spells.amount, rfl⟩
      | deposit | withdraw => cases type

end Kinds

/-! ## Entries -/

/-- An object spells an entry out: each field of the entry and of its kind is
there once, with its value. -/
structure Spells (ms : List (Option String × Json)) (e : Entry) : Prop
    extends SpellsKind ms e.kind where
  id : named "id" ms = [Json.text e.id]
  walletId : named "wallet_id" ms = [Json.text e.walletId]
  type : named "type" ms = [Json.text e.kind.type.name]
  created : ∃ s, named "created_at" ms = [Json.text s] ∧ Timestamp.read? s = some e.createdAt

/-- All that an object holds can be held: its keys are readable, and so are the
values of all members that are not fields of the entry itself. -/
structure Bears (ms : List (Option String × Json)) : Prop where
  keys : ∀ m ∈ ms, m.1.isSome
  values : ∀ key v, (some key, v) ∈ ms → key ∉ entryFields → isHoldable 126 v

/-- The members of an object that are not fields of the entry itself. -/
def heldMembers (ms : List (Option String × Json)) : List (Option String × Json) :=
  ms.filter fun (key, _) =>
    match key with
    | some k => !entryFields.contains k
    | none => true

section Entries

variable {ms ms' : List (Option String × Json)} {e : Entry} {t : EntryType}

theorem named_heldMembers {name : String} (held : name ∉ entryFields) :
    named name (heldMembers ms) = named name ms :=
  named_filter fun _ => by simpa using held

theorem mem_heldMembers {m : Option String × Json} :
    m ∈ heldMembers ms ↔ m ∈ ms ∧ ∀ key, m.1 = some key → key ∉ entryFields := by
  obtain ⟨key, v⟩ := m
  cases key <;> simp [heldMembers]

theorem tag_eq_some_iff {name : String} :
    heldTag? (Json.text name) = some t ↔ Json.text name = Json.text t.name := by
  have all (u : EntryType) : heldTag? (Json.text u.name) = some u := by cases u <;> rfl
  refine ⟨fun found => ?_, fun same => same ▸ all t⟩
  replace found : EntryType.all.find? (·.name == name) = some t := found
  have named := List.find?_some found
  rw [eq_of_beq named]

theorem spellsKind_heldMembers {k : EntryKind} :
    SpellsKind (heldMembers ms) k ↔ SpellsKind ms k := by
  have amount : named "amount" (heldMembers ms) = named "amount" ms := named_heldMembers (by decide)
  have product : named "product_id" (heldMembers ms) = named "product_id" ms :=
    named_heldMembers (by decide)
  have quantity : named "quantity" (heldMembers ms) = named "quantity" ms :=
    named_heldMembers (by decide)
  constructor
  · rintro ⟨h₁, h₂, h₃⟩
    exact ⟨amount ▸ h₁, product ▸ h₂, quantity ▸ h₃⟩
  · rintro ⟨h₁, h₂, h₃⟩
    exact ⟨amount.symm ▸ h₁, product.symm ▸ h₂, quantity.symm ▸ h₃⟩

/-- The members that are held are fit for it exactly when all members have
readable keys and the values that are held are fit. -/
theorem holdable_heldMembers (readable : hasReadableKeys ms = true) :
    membersAreHoldable 126 (heldMembers ms) = true ↔ Bears ms := by
  rw [membersAreHoldable_iff]
  constructor
  · intro holds
    refine ⟨hasReadableKeys_iff.mp readable, fun key v mem other => ?_⟩
    refine (holds (some key, v) (mem_heldMembers.mpr ⟨mem, fun _ same => ?_⟩)).2
    cases same
    exact other
  · rintro ⟨keys, values⟩ ⟨key, v⟩ mem
    obtain ⟨there, other⟩ := mem_heldMembers.mp mem
    obtain ⟨k, rfl⟩ := Option.isSome_iff_exists.mp (keys _ there)
    exact ⟨rfl, values k v there (other k rfl)⟩

/-- What is done to read an entry, with the members that are held under their name. -/
theorem decode_object_eq : (decodeWithin? 0 (.object ms) : Option Entry) =
    (fields? entryFields (.object ms)).bind fun fields =>
      match fields with
      | [id, walletId, created] =>
        if membersAreHoldable 126 (heldMembers ms) then do
          let type ← heldTag? (← (← field? "type" (heldMembers ms)))
          some {
            id := ← required 0 id
            walletId := ← required 0 walletId
            kind := ← kindOfMembers? 0 type (heldMembers ms)
            createdAt := ← required 0 created }
        else none
      | _ => none := rfl

theorem decode_of_spells (spells : Spells ms e) (bears : Bears ms) :
    decodeWithin? 0 (.object ms) = some e := by
  have readable := hasReadableKeys_iff.mpr bears.keys
  obtain ⟨time, once, reads⟩ := spells.created
  have own : fields? entryFields (.object ms) =
      some [some (Json.text e.id), some (Json.text e.walletId), some (Json.text time)] := by
    rw [fields?_object readable]
    simp only [entryFields, List.mapM_cons, field?_eq_some_iff.mpr spells.id,
      field?_eq_some_iff.mpr spells.walletId, field?_eq_some_iff.mpr once]
    rfl
  have type : field? "type" (heldMembers ms) = some (some (Json.text e.kind.type.name)) :=
    field?_eq_some_iff.mpr ((named_heldMembers (by decide)).trans spells.type)
  have held : hasReadableKeys (heldMembers ms) = true :=
    hasReadableKeys_iff.mpr fun m mem => bears.keys m (mem_heldMembers.mp mem).1
  have kind : kindOfMembers? 0 e.kind.type (heldMembers ms) = some e.kind :=
    (kindOfMembers?_eq_some_iff held).mpr ⟨rfl, spellsKind_heldMembers.mpr spells.toSpellsKind⟩
  have created : required 0 (some (Json.text time)) = some e.createdAt :=
    decoded_timestamp.mpr ⟨time, rfl, reads⟩
  have text (s : String) : required 0 (some (Json.text s)) = some s := decoded_string.mpr rfl
  have tag : heldTag? (Json.text e.kind.type.name) = some e.kind.type := tag_eq_some_iff.mpr rfl
  simp only [decode_object_eq, own, Option.bind_eq_bind, Option.bind_some,
    (holdable_heldMembers readable).mpr bears, if_true, type, tag, text, kind, created]

theorem spells_of_decode (tagged : ∃ name, (some "type", Json.text name) ∈ ms)
    (found : decodeWithin? 0 (.object ms) = some e) : Spells ms e ∧ Bears ms := by
  rw [decode_object_eq] at found
  obtain ⟨fields, own, found⟩ := Option.bind_eq_some_iff.mp found
  have readable := readable_of_fields? own
  split at found
  · next id walletId created =>
    simp only [Option.ite_none_right_eq_some, Option.bind_eq_bind, Option.bind_eq_some_iff,
        Option.some.injEq] at found
    obtain ⟨holds, _, typed, tag, rfl, t, names, i, idRead, w, walletRead, k, kindRead, c,
      createdRead, rfl⟩ := found
    have bears := (holdable_heldMembers readable).mp holds
    have held : hasReadableKeys (heldMembers ms) = true :=
      hasReadableKeys_iff.mpr fun m mem => bears.keys m (mem_heldMembers.mp mem).1
    obtain ⟨rfl, kind⟩ := (kindOfMembers?_eq_some_iff held).mp kindRead
    rw [fields?_object readable] at own
    simp only [entryFields, List.mapM_cons, List.mapM_nil, Option.bind_eq_bind,
      Option.bind_eq_some_iff, Option.pure_def, Option.some.injEq] at own
    obtain ⟨_, idIs, _, ⟨_, walletIs, _, ⟨_, createdIs, _, rfl, rfl⟩, rfl⟩, same⟩ := own
    cases same
    obtain ⟨_, idOnce, idValue⟩ := field?_required_iff.mp ⟨_, idIs, idRead⟩
    obtain ⟨_, walletOnce, walletValue⟩ := field?_required_iff.mp ⟨_, walletIs, walletRead⟩
    obtain ⟨_, createdOnce, createdValue⟩ := field?_required_iff.mp ⟨_, createdIs, createdRead⟩
    obtain ⟨time, rfl, reads⟩ := decoded_timestamp.mp createdValue
    have type : named "type" ms = [tag] :=
      (named_heldMembers (by decide)).symm.trans (field?_eq_some_iff.mp typed)
    obtain ⟨name, mem⟩ := tagged
    obtain rfl : tag = Json.text name := by
      have := mem_named.mpr mem
      rw [type] at this
      exact (List.mem_singleton.mp this).symm
    exact ⟨{
      spellsKind_heldMembers.mp kind with
      id := idOnce.trans (by rw [decoded_string.mp idValue])
      walletId := walletOnce.trans (by rw [decoded_string.mp walletValue])
      type := type.trans (by rw [tag_eq_some_iff.mp names])
      created := ⟨time, createdOnce, reads⟩ }, bears⟩
  · cases found

/-- An object whose tag is a text is read as an entry exactly when it spells the
entry out and all that it holds can be held. -/
theorem decode_object_iff (tagged : ∃ name, (some "type", Json.text name) ∈ ms) :
    decodeWithin? 0 (.object ms) = some e ↔ Spells ms e ∧ Bears ms :=
  ⟨spells_of_decode tagged, fun ⟨spells, bears⟩ => decode_of_spells spells bears⟩

end Entries

/-! ## Complete objects -/

/-- Whether a member is one of the fields of an entry of a kind. -/
def isField (t : EntryType) (m : Option String × Json) : Bool :=
  match m.1 with
  | some key => ("type" :: entryFields ++ kindFields t).contains key
  | none => false

/-- Every field of an entry is there once with a value that is valid for it: the
identifiers and the time, a tag that names a kind, and the fields of that kind. -/
structure IsComplete (ms : List (Option String × Json)) : Prop where
  id : ∃ s, named "id" ms = [Json.text s]
  walletId : ∃ s, named "wallet_id" ms = [Json.text s]
  created : ∃ s t, named "created_at" ms = [Json.text s] ∧ Timestamp.read? s = some t
  amount : ∃ n, Fits n ∧ named "amount" ms = [Json.integer n]
  type : ∃ t : EntryType, named "type" ms = [Json.text t.name] ∧
    (t = .purchase → (∃ p, named "product_id" ms = [Json.text p]) ∧
      ∃ n, Fits n ∧ named "quantity" ms = [Json.integer n])

/-- A value without parts: null, a truth value, a text or a 64-bit integer. -/
def IsScalar : Json → Prop
  | .null | .bool _ | .string (some _) => True
  | .number (.integer n) => Fits n
  | _ => False

/-- Whatever an object holds beyond the fields of the kind that its tag names is
a scalar under a key that names a text. -/
def ExtrasAreScalar (ms : List (Option String × Json)) : Prop :=
  ∀ t : EntryType, named "type" ms = [Json.text t.name] →
    ∀ m ∈ ms, ¬ isField t m → m.1.isSome ∧ IsScalar m.2

section Complete

variable {ms ms' : List (Option String × Json)} {e : Entry} {t : EntryType}

theorem exists_word {n : Int} (fits : Fits n) : ∃ word : Int64, word.toInt = n :=
  ⟨.ofInt n, Int64.toInt_ofInt_of_le fits.1 (Int.lt_add_one_iff.mpr fits.2)⟩

theorem isHoldable_of_isScalar {room : Nat} {v : Json} (scalar : IsScalar v) :
    isHoldable room v := by
  cases v with
  | null | bool => rfl
  | string s =>
    cases s with
    | some => rfl
    | none => cases scalar
  | number literal =>
    cases literal with
    | integer n =>
      obtain ⟨word, rfl⟩ := exists_word scalar
      exact isHoldable_int64 room word
    | decimal => cases scalar
  | array | object => cases scalar

/-- The value of a field that is there once. -/
theorem eq_of_named {name : String} {v w : Json} (once : named name ms = [v])
    (mem : (some name, w) ∈ ms) : w = v := by
  have := mem_named.mpr mem
  rw [once] at this
  exact List.mem_singleton.mp this

/-- The fields of an entry that is spelled out are scalars, but for those of the
entry itself, which are not held. -/
theorem Spells.isScalar (spells : Spells ms e) {key : String} {v : Json} (mem : (some key, v) ∈ ms)
    (field : isField e.kind.type (some key, v)) (held : key ∉ entryFields) : IsScalar v := by
  have names : key = "type" ∨ key ∈ kindFields e.kind.type := by
    have any : key ∈ "type" :: entryFields ++ kindFields e.kind.type :=
      List.contains_iff_mem.mp field
    rcases List.mem_append.mp any with own | kind
    · exact (List.mem_cons.mp own).imp_right fun own => absurd own held
    · exact .inr kind
  have amount (same : key = "amount") : IsScalar v := by
    subst same
    exact eq_of_named spells.amount mem ▸ fits_toInt _
  rcases names with rfl | names
  · exact eq_of_named spells.type mem ▸ trivial
  · cases kind : e.kind with
    | deposit | withdraw =>
      rw [kind] at names
      exact amount (List.mem_singleton.mp names)
    | purchase p q a =>
      simp only [kind, EntryKind.type, kindFields, List.mem_cons, List.not_mem_nil, or_false]
        at names
      rcases names with rfl | rfl | same
      · exact eq_of_named (spells.product p (by rw [kind]; rfl)) mem ▸ trivial
      · exact eq_of_named (spells.quantity q (by rw [kind]; rfl)) mem ▸ fits_toInt q
      · exact amount same

theorem Spells.bears (spells : Spells ms e) (extras : ExtrasAreScalar ms) : Bears ms := by
  have extra := extras e.kind.type spells.type
  constructor
  · rintro ⟨key, v⟩ mem
    cases key with
    | some => rfl
    | none => exact (extra _ mem Bool.false_ne_true).1
  · intro key v mem held
    by_cases field : isField e.kind.type (some key, v)
    · exact isHoldable_of_isScalar (spells.isScalar mem field held)
    · exact isHoldable_of_isScalar (extra _ mem field).2

theorem Spells.isComplete (spells : Spells ms e) : IsComplete ms := by
  obtain ⟨time, once, reads⟩ := spells.created
  refine ⟨⟨_, spells.id⟩, ⟨_, spells.walletId⟩, ⟨time, _, once, reads⟩,
    ⟨_, fits_toInt _, spells.amount⟩, _, spells.type, fun purchase => ?_⟩
  obtain ⟨p, q, product, quantity, -⟩ := eq_purchase_of_type purchase
  exact ⟨⟨p, spells.product p product⟩, _, fits_toInt q, spells.quantity q quantity⟩

theorem IsComplete.spells (complete : IsComplete ms) : ∃ e, Spells ms e := by
  obtain ⟨⟨id, idOnce⟩, ⟨wallet, walletOnce⟩, ⟨time, created, createdOnce, reads⟩,
    ⟨_, fits, amountOnce⟩, t, typeOnce, purchased⟩ := complete
  obtain ⟨cents, rfl⟩ := exists_word fits
  cases t with
  | deposit =>
    exact ⟨⟨id, wallet, .deposit ⟨cents⟩, created⟩,
      ⟨amountOnce, nofun, nofun⟩, idOnce, walletOnce, typeOnce, time, createdOnce, reads⟩
  | withdraw =>
    exact ⟨⟨id, wallet, .withdraw ⟨cents⟩, created⟩,
      ⟨amountOnce, nofun, nofun⟩, idOnce, walletOnce, typeOnce, time, createdOnce, reads⟩
  | purchase =>
    obtain ⟨⟨product, productOnce⟩, _, fitsToo, quantityOnce⟩ := purchased rfl
    obtain ⟨quantity, rfl⟩ := exists_word fitsToo
    refine ⟨⟨id, wallet, .purchase product quantity ⟨cents⟩, created⟩,
      ⟨amountOnce, fun _ same => ?_, fun _ same => ?_⟩, idOnce, walletOnce, typeOnce, time,
      createdOnce, reads⟩
    · cases same
      exact productOnce
    · cases same
      exact quantityOnce

/-- Whether an object spells an entry out depends only on the fields of that
entry, and not on their order. -/
theorem Spells.of_perm (spells : Spells ms e)
    (perm : (ms.filter (isField e.kind.type)).Perm (ms'.filter (isField e.kind.type))) :
    Spells ms' e := by
  have moved {name : String} {v : Json} (once : named name ms = [v])
      (field : ∀ v, isField e.kind.type (some name, v) = true) : named name ms' = [v] := by
    rw [← named_filter field] at once ⊢
    exact named_eq_of_perm perm once
  obtain ⟨time, created, reads⟩ := spells.created
  refine {
    amount := moved spells.amount fun _ => ?_
    product := fun p product => moved (spells.product p product) fun _ => ?_
    quantity := fun q quantity => moved (spells.quantity q quantity) fun _ => ?_
    id := moved spells.id fun _ => rfl
    walletId := moved spells.walletId fun _ => rfl
    type := moved spells.type fun _ => rfl
    created := ⟨time, moved created fun _ => rfl, reads⟩ }
  · cases e.kind <;> rfl
  · rw [type_of_productId? product]
    rfl
  · rw [type_of_quantity? quantity]
    rfl

theorem Bears.of_perm (bears : Bears ms) (perm : ms.Perm ms') : Bears ms' where
  keys m mem := bears.keys m (perm.mem_iff.mpr mem)
  values key v mem := bears.values key v (perm.mem_iff.mpr mem)

end Complete

/-- An object whose tag is a text is read as an entry exactly when it spells it
out and can be held. If its other members are scalars, it is read exactly when it
is complete. What is read does not depend on the order of the members, nor on the
other members as long as they are scalars, and it is a purchase only if the
object has a product and a quantity. -/
theorem complete_entries_are_read {text : String} {members : List (Option String × Json)}
    (parsed : Json.parse? text = some (.object members))
    (tagged : ∃ name, (some "type", Json.text name) ∈ members) :
    (∀ e : Entry, read? text = some e ↔ Spells members e ∧ Bears members) ∧
    (ExtrasAreScalar members → ((∃ e : Entry, read? text = some e) ↔ IsComplete members)) ∧
    (∀ e : Entry, read? text = some e → e.kind.type = .purchase →
      ∃ p q, named "product_id" members = [Json.text p] ∧
        named "quantity" members = [Json.integer q.toInt] ∧
        e.kind = .purchase p q e.kind.amount) ∧
    (∀ text' members', Json.parse? text' = some (.object members') → members.Perm members' →
      (read? text' : Option Entry) = read? text) ∧
    ∀ (e : Entry) text' members', read? text = some e →
      Json.parse? text' = some (.object members') →
      (members.filter (isField e.kind.type)).Perm (members'.filter (isField e.kind.type)) →
      ExtrasAreScalar members' → read? text' = some e := by
  have reads (text' : String) (members' : List (Option String × Json))
      (parsed' : Json.parse? text' = some (.object members')) :
      (read? text' : Option Entry) = decodeWithin? 0 (.object members') := by
    rw [read?, parsed']
    rfl
  have read_iff (e : Entry) : read? text = some e ↔ Spells members e ∧ Bears members := by
    rw [reads text members parsed, decode_object_iff tagged]
  refine ⟨read_iff, fun extras => ⟨?_, ?_⟩, fun e read purchase => ?_, ?_, ?_⟩
  · rintro ⟨e, read⟩
    exact ((read_iff e).mp read).1.isComplete
  · intro complete
    obtain ⟨e, spells⟩ := complete.spells
    exact ⟨e, (read_iff e).mpr ⟨spells, spells.bears extras⟩⟩
  · have spells := ((read_iff e).mp read).1
    obtain ⟨p, q, product, quantity, same⟩ := eq_purchase_of_type purchase
    exact ⟨p, q, spells.product p product, spells.quantity q quantity, same⟩
  · intro text' members' parsed' perm
    obtain ⟨name, mem⟩ := tagged
    refine Option.ext fun e => ?_
    rw [read_iff, reads text' members' parsed', decode_object_iff ⟨name, perm.mem_iff.mp mem⟩]
    exact and_congr
      ⟨fun spells => spells.of_perm (perm.symm.filter _),
        fun spells => spells.of_perm (perm.filter _)⟩
      ⟨fun bears => bears.of_perm perm.symm, fun bears => bears.of_perm perm⟩
  · intro e text' members' read parsed' perm extras
    have spells := ((read_iff e).mp read).1.of_perm perm
    rw [reads text' members' parsed']
    exact decode_of_spells spells (spells.bears extras)

/-- The members of a purchase, with its tag at the end and one that is not its own. -/
def lateTagged : List (Option String × Json) := [
  member "amount" (Json.integer 500), member "note" .null, member "quantity" (Json.integer 2),
  member "product_id" (Json.text "p1"), member "created_at" (Json.text "2026-01-31T10:00:00Z"),
  member "wallet_id" (Json.text "w1"), member "id" (Json.text "t1"),
  member "type" (Json.text "purchase")]

/-- A purchase is read although its tag comes last. -/
theorem late_tagged_purchase_is_read :
    read? ("\x7b\"amount\":500,\"note\":null,\"quantity\":2,\"product_id\":\"p1\"," ++
      "\"created_at\":\"2026-01-31T10:00:00Z\",\"wallet_id\":\"w1\",\"id\":\"t1\"," ++
      "\"type\":\"purchase\"\x7d") =
      some (Entry.mk "t1" "w1" (.purchase "p1" 2 ⟨500⟩) ⟨1769853600, 0⟩) := by
  have tagged : (some "type", Json.text "purchase") ∈ lateTagged := by simp [lateTagged, member]
  have spells : Spells lateTagged
      (Entry.mk "t1" "w1" (.purchase "p1" 2 ⟨500⟩) ⟨1769853600, 0⟩) := {
    amount := rfl
    product := fun _ same => Option.some.inj same ▸ rfl
    quantity := fun _ same => Option.some.inj same ▸ rfl
    id := rfl
    walletId := rfl
    type := rfl
    created := ⟨"2026-01-31T10:00:00Z", rfl, by decide +kernel⟩ }
  have text : "\x7b\"amount\":500,\"note\":null,\"quantity\":2,\"product_id\":\"p1\"," ++
      "\"created_at\":\"2026-01-31T10:00:00Z\",\"wallet_id\":\"w1\",\"id\":\"t1\"," ++
      "\"type\":\"purchase\"\x7d" = (Json.object lateTagged).toText := by decide +kernel
  rw [text]
  exact ((complete_entries_are_read (Json.parse?_toText (by decide +kernel)) ⟨_, tagged⟩).1 _).mpr
    ⟨spells, (holdable_heldMembers rfl).mp (by decide +kernel)⟩

end WalletLedger.Codec
