import WalletLedger.Proofs.Database.Rows
import WalletLedger.Proofs.Services.Fulfilment

/-!
# The catalog and the requests that wrote it

A log tells which requests were served, and how. Articles are `WellKept` by a
log when they are the products that its requests made, under their identifiers
and from their times, and each has the name that the last request to write it
was given, without the blanks at its ends (`lastWrite?`). Making a product and
setting its fields keep it so (`WellKept.create`, `WellKept.update`), and all
other requests leave identifiers, times and names alone (`labels_fulfil`). So
it is kept by every request that a regular store serves (`serve_keeps`).
-/

namespace WalletLedger

open Memory

/-! ## Logs of requests -/

/-- A request that was served, with what came of it. -/
structure Served where
  request : Request
  answer : Except Failure (Outcome Reply)

namespace Served

/-- The product that a request made. -/
def made? : Served → Option Product
  | ⟨.createProduct _, .ok ⟨_, .product p⟩⟩ => some p
  | _ => none

/-- The product that a request wrote, and the fields that it was given. -/
def written? : Served → Option (String × NewProduct)
  | ⟨.createProduct fields, .ok ⟨_, .product p⟩⟩ => some (p.id, fields)
  | ⟨.updateProduct id fields, .ok _⟩ => some (id, fields)
  | _ => none

theorem made?_eq_none {e : Served} (unwritten : e.written? = none) : e.made? = none := by
  unfold made?
  split
  · cases unwritten
  · rfl

end Served

/-- The fields that the last write of a product was given. -/
def lastWrite? (log : List Served) (id : String) : Option NewProduct :=
  ((log.filterMap Served.written?).reverse.find? (·.1 == id)).map (·.2)

section Logs

variable {log : List Served} {e : Served} {id : String} {fields : NewProduct}

theorem lastWrite?_unwritten (unwritten : e.written? = none) :
    lastWrite? (log ++ [e]) id = lastWrite? log id := by
  simp [lastWrite?, List.filterMap_append, unwritten]

theorem lastWrite?_own (written : e.written? = some (id, fields)) :
    lastWrite? (log ++ [e]) id = some fields := by
  simp [lastWrite?, List.filterMap_append, written]

theorem lastWrite?_other {other : String} (written : e.written? = some (other, fields))
    (different : other ≠ id) : lastWrite? (log ++ [e]) id = lastWrite? log id := by
  simp [lastWrite?, List.filterMap_append, written, different]

end Logs

/-! ## Names -/

/-- A name as the catalog has it: not empty, not too long, and without blanks at its ends. -/
structure IsTidy (name : String) : Prop where
  nonempty : name ≠ ""
  short : name.length ≤ 200
  start : ∀ c, name.toList.head? = some c → Text.isBlank c = false
  finish : ∀ c, name.toList.getLast? = some c → Text.isBlank c = false

theorem NewProduct.IsSound.isTidy {fields : NewProduct} (sound : fields.IsSound) :
    IsTidy (Text.strip fields.name) where
  nonempty empty := by
    have named := sound.named
    rw [empty] at named
    exact absurd named (by decide)
  short := sound.shortName
  start c first := by
    rw [Text.strip, String.toList_ofList] at first
    exact Text.isBlank_head_trim first
  finish c last := by
    rw [Text.strip, String.toList_ofList] at last
    exact Text.isBlank_getLast_trim last

/-! ## Articles of books -/

/-- What a product keeps from when it was made. -/
def Product.stamp (p : Product) : Stamp := ⟨p.id, p.createdAt⟩

/-- The identifiers, times and names of articles. -/
def Article.labels (articles : List Article) : List (Stamp × String) :=
  articles.map fun a => (a.stamp, a.product.name)

namespace Memory.Books

variable {how : Manner} {b b' : Books} {log : List Served} {e : Served} {id : String}
  {fields : NewProduct}

/-- The articles are the products that the requests of a log made, and each has the name that
it was given last. -/
structure WellKept (log : List Served) (b : Books) : Prop where
  made : b.articles.map Article.stamp = (log.filterMap Served.made?).map Product.stamp
  named : ∀ a ∈ b.articles,
    (lastWrite? log a.product.id).map (fun fields => Text.strip fields.name) = some a.product.name
  tidy : ∀ a ∈ b.articles, IsTidy a.product.name

theorem opening_wellKept (users : List User) (supply : Supply) :
    (opening users supply).WellKept [] :=
  ⟨rfl, fun _ mem => absurd mem List.not_mem_nil, fun _ mem => absurd mem List.not_mem_nil⟩

namespace WellKept

/-- Nothing but identifiers, times and names tells. -/
theorem ofLabels (h : b.WellKept log)
    (same : Article.labels b'.articles = Article.labels b.articles) : b'.WellKept log := by
  have found {a : Article} (mem : a ∈ b'.articles) :
      ∃ c ∈ b.articles, c.product.id = a.product.id ∧ c.product.name = a.product.name := by
    obtain ⟨c, there, alike⟩ := exists_of_map_eq same mem
    obtain ⟨stamps, names⟩ := Prod.mk.inj alike
    exact ⟨c, there, congrArg Stamp.id stamps, names⟩
  refine ⟨?_, fun a mem => ?_, fun a mem => ?_⟩
  · have stamps := congrArg (List.map Prod.fst) same
    rw [Article.labels, Article.labels, List.map_map, List.map_map] at stamps
    exact stamps.trans h.made
  · obtain ⟨c, there, ids, names⟩ := found mem
    rw [← ids, ← names]
    exact h.named c there
  · obtain ⟨c, there, -, names⟩ := found mem
    rw [← names]
    exact h.tidy c there

theorem unwritten (h : b.WellKept log) (unwritten : e.written? = none) :
    b.WellKept (log ++ [e]) := by
  refine ⟨?_, fun a mem => ?_, h.tidy⟩
  · rw [h.made, List.filterMap_append]
    simp [Served.made?_eq_none unwritten]
  · rw [lastWrite?_unwritten unwritten]
    exact h.named a mem

/-- A product is made. -/
theorem create (h : b.WellKept log) (wf : b.WellFormed) (sound : fields.IsSound) :
    ((b.spend 1 1).addProduct (b.newProduct fields)).WellKept
      (log ++ [⟨.createProduct fields, .ok (.created (.product (b.newProduct fields)))⟩]) := by
  refine ⟨?_, fun a mem => ?_, fun a mem => ?_⟩
  · rw [List.filterMap_append, List.map_append, ← h.made]
    exact List.map_append
  · rcases List.mem_append.mp mem with old | new
    · -- the new product has an identifier of its own
      have other : b.next.id ≠ a.product.id :=
        fun same => wf.fresh_article (List.mem_map.mpr ⟨a, old, same.symm⟩)
      rw [lastWrite?_other rfl other]
      exact h.named a old
    · obtain rfl := List.mem_singleton.mp new
      rw [lastWrite?_own rfl]
      rfl
  · rcases List.mem_append.mp mem with old | new
    · exact h.tidy a old
    · obtain rfl := List.mem_singleton.mp new
      exact sound.isTidy

/-- The fields of a live product are set. -/
theorem update (h : b.WellKept log) (wf : b.WellFormed) (sound : fields.IsSound) {p : Product}
    (live : b.product? id = some p) :
    ((b.spend 0 1).setArticle id fun a =>
      { a with product := p.revised fields b.next.time }).WellKept
      (log ++ [⟨.updateProduct id fields,
        .ok (.ok (.product (p.revised fields b.next.time)))⟩]) := by
  have own := (product?_eq_some live).2
  refine ⟨?_, fun a mem => ?_, fun a mem => ?_⟩
  · have stamps : ((b.spend 0 1).setArticle id fun a =>
        { a with product := p.revised fields b.next.time }).articles.map Article.stamp =
        b.articles.map Article.stamp := by
      refine map_setArticle_of_own (b := b.spend 0 1) fun a mem owned => ?_
      rw [wf.article_eq live mem owned]
      rfl
    rw [stamps, h.made, List.filterMap_append]
    simp [Served.made?]
  · rcases mem_setArticle mem with ⟨c, -, -, rfl⟩ | ⟨old, other⟩
    · show (lastWrite? _ p.id).map _ = some (Text.strip fields.name)
      rw [own, lastWrite?_own rfl]
      rfl
    · rw [lastWrite?_other rfl (Ne.symm other)]
      exact h.named a old
  · rcases mem_setArticle mem with ⟨c, -, -, rfl⟩ | ⟨old, -⟩
    · exact sound.isTidy
    · exact h.tidy a old

end WellKept

/-! ## Requests -/

/-- A call that writes no fields of a product leaves identifiers, times and names alone. -/
theorem Step.labels_eq {call : StoreCall} {reply : Reply} (h : Step b call reply b')
    (insert : ∀ fields, call ≠ .insertProduct fields)
    (update : ∀ id fields, call ≠ .updateProduct id fields) :
    Article.labels b'.articles = Article.labels b.articles := by
  cases h with
  | insertProduct => exact absurd rfl (insert _)
  | updateProduct => exact absurd rfl (update _ _)
  | deleteProduct => exact map_setArticle fun _ => rfl
  | purchase => exact map_setArticle fun _ => rfl
  | _ => rfl

theorem labels_fulfil {late : Option Duration} {r : Request}
    (create : ∀ fields, r ≠ .createProduct fields)
    (update : ∀ id fields, r ≠ .updateProduct id fields) :
    Article.labels (b.leaves (b.fulfil how late r)).articles = Article.labels b.articles := by
  have writes : b.leaves (b.fulfil how late r) = b ∨ ∃ call reply, r.write? = some call ∧
      call.Checked ∧ Step b call reply (b.leaves (b.fulfil how late r)) := fulfil_writes r
  rcases writes with same | ⟨call, reply, writes, -, step⟩
  · rw [same]
  · refine step.labels_eq (fun fields inserts => ?_) fun id fields updates => ?_
    · subst inserts
      cases r <;> cases writes
      exact create _ rfl
    · subst updates
      cases r <;> cases writes
      exact update _ _ rfl

theorem fulfil_createProduct (late : Option Duration) : b.fulfil how late (.createProduct fields) =
    match fields.flaw? with
    | some e => .error (.refused (.validation e))
    | none => .ok (.created (.product (b.newProduct fields)),
        (b.spend 1 1).addProduct (b.newProduct fields)) := by
  rw [fulfil, newProduct_eq]
  cases fields.flaw? <;> rfl

theorem fulfil_updateProduct (late : Option Duration) :
    b.fulfil how late (.updateProduct id fields) = match fields.flaw? with
    | some e => .error (.refused (.validation e))
    | none => (b.existing id).map fun p => (.ok (.product (p.revised fields b.next.time)),
        (b.spend 0 1).setArticle id fun a =>
          { a with product := p.revised fields b.next.time }) := by
  rw [fulfil, newProduct_eq, respond]
  rcases fields.flaw? with _ | e
  · unfold existing
    rcases Validation.uuid id with _ | _
    · rfl
    · cases b.product? id <;> rfl
  · rfl

/-- What a request comes to keeps the articles. -/
theorem WellKept.fulfil (h : b.WellKept log) (wf : b.WellFormed) (late : Option Duration)
    (r : Request) : (b.leaves (b.fulfil how late r)).WellKept
      (log ++ [⟨r, (b.fulfil how late r).map Prod.fst⟩]) := by
  have spared (create : ∀ fields, r ≠ .createProduct fields)
      (update : ∀ id fields, r ≠ .updateProduct id fields) :
      (b.leaves (b.fulfil how late r)).WellKept
        (log ++ [⟨r, (b.fulfil how late r).map Prod.fst⟩]) := by
    refine (h.unwritten ?_).ofLabels (labels_fulfil create update)
    cases r <;> first | rfl | exact absurd rfl (create _) | exact absurd rfl (update _ _)
  cases r with
  | createProduct fields =>
    rw [fulfil_createProduct]
    rcases flaw : fields.flaw? with _ | e
    · exact h.create wf (NewProduct.flaw?_eq_none.mp flaw)
    · exact h.unwritten rfl
  | updateProduct id fields =>
    rw [fulfil_updateProduct]
    rcases flaw : fields.flaw? with _ | e
    · rcases found : b.existing id with e | p
      · exact h.unwritten rfl
      · exact h.update wf (NewProduct.flaw?_eq_none.mp flaw) (existing_eq_ok found).2
    · exact h.unwritten rfl
  | _ => exact spared (fun _ => nofun) fun _ _ => nofun

end Memory.Books

/-! ## Services -/

section Serve

variable {S : Type} {how : Manner} {holds : S → Books → Prop} {s : Services (StateM (World S))}
  {tempo : Movement → Bool → Option Duration → Prop} {w : World S} {b : Books}
  {log : List Served} {id : String} {fields : NewProduct}

/-- What requests to write the catalog come to in a world with these books. -/
structure Services.WritesCatalog (s : Services (StateM (World S))) (w : World S) (b : Books) :
    Prop where
  /-- Of sound fields a product is made. -/
  created : ∀ fields, fields.IsSound →
    (s.serve (.createProduct fields) w).1 = .ok (.created (.product (b.newProduct fields)))
  /-- Of a live product they are set. (Its identifier is a spelling of a UUID, as all are that a
  generator of UUIDs gives.) -/
  updated : b.supply.SpellsUuids → ∀ fields p, fields.IsSound → ⟨p, false⟩ ∈ b.articles →
    (s.serve (.updateProduct p.id fields) w).1 = .ok (.ok (.product (p.revised fields b.next.time)))
  /-- Other fields are refused for their first flaw, whatever products there are. -/
  flawed : ∀ fields e, fields.flaw? = some e →
    s.serve (.createProduct fields) w = (.error (.refused (.validation e)), w) ∧
    ∀ id, s.serve (.updateProduct id fields) w = (.error (.refused (.validation e)), w)
  /-- Sound ones are refused when no live product has this very identifier. -/
  missing : ∀ id fields, fields.IsSound → (∀ p, ⟨p, false⟩ ∈ b.articles → p.id ≠ id) →
    s.serve (.updateProduct id fields) w = (.error (.refused (.productNotFound id)), w)

/-- Nothing but live products and the supply tells. -/
theorem Services.WritesCatalog.ofRows {b' : Books} (h : s.WritesCatalog w b)
    (supply : b'.supply = b.supply)
    (live : ∀ p, ⟨p, false⟩ ∈ b'.articles ↔ ⟨p, false⟩ ∈ b.articles) : s.WritesCatalog w b' := by
  have next : b'.next = b.next := congrArg Supply.next supply
  refine ⟨fun fields sound => ?_, fun spelled fields p sound mem => ?_, h.flawed,
    fun id fields sound gone => h.missing id fields sound fun p mem => gone p ((live p).mpr mem)⟩
  · have made := h.created fields sound
    rwa [Books.newProduct, ← next] at made
  · rw [next]
    exact h.updated (supply ▸ spelled) fields p sound ((live p).mp mem)

theorem newProduct_of_sound (sound : fields.IsSound) : Validation.newProduct fields = .ok () := by
  rw [newProduct_eq, NewProduct.flaw?_eq_none.mpr sound]

theorem newProduct_of_flaw {e : FieldError} (flaw : fields.flaw? = some e) :
    Validation.newProduct fields = .error e := by
  rw [newProduct_eq, flaw]

/-- A flaw is found before the store is asked. -/
theorem serve_flawedFields {e : FieldError} (flaw : fields.flaw? = some e) :
    s.serve (.createProduct fields) w = (.error (.refused (.validation e)), w) ∧
      ∀ id, s.serve (.updateProduct id fields) w = (.error (.refused (.validation e)), w) := by
  constructor
  · rw [Services.serve, Services.createProduct, newProduct_of_flaw flaw]
    rfl
  · intro id
    rw [Services.serve, Services.updateProduct, newProduct_of_flaw flaw]
    rfl

theorem existing_of_missing (missing : b.product? id = none) :
    b.existing id = .error (.refused (.productNotFound id)) := by
  unfold Books.existing
  rw [missing]
  cases Validation.uuid id <;> rfl

/-- A product that is not there is missed before the store is asked to change it. -/
theorem serve_missingProduct (truthful : Truthful how holds s.store) (held : holds w.store b)
    (wf : b.WellFormed) (sound : fields.IsSound) (gone : b.product? id = none) :
    s.serve (.updateProduct id fields) w = (.error (.refused (.productNotFound id)), w) := by
  have looked : s.existingProduct id w = (.error (.refused (.productNotFound id)), w) := by
    rw [truthful.existingProduct held wf, existing_of_missing gone]
  have passed : (Services.check (.ok ()) : Attempt (StateM (World S)) Unit) w = (.ok (), w) := rfl
  rw [Services.serve, Services.updateProduct, newProduct_of_sound sound, Attempt.map_apply,
    Attempt.bind_apply, passed]
  simp only [Attempt.bind_apply, looked]
  rfl

theorem existing_of_live (wf : b.WellFormed) (spelled : b.supply.SpellsUuids) {p : Product}
    (live : ⟨p, false⟩ ∈ b.articles) : b.existing p.id = .ok p := by
  have found : b.product? p.id = some p := wf.product?_eq_some_iff.mpr ⟨live, rfl⟩
  obtain ⟨n, taken, look, -, same⟩ := wf.articles.exists_number (List.mem_map_of_mem live)
  have named : p.id = b.supply.source.id n := congrArg Stamp.id same
  have known : Validation.uuid p.id = .ok () := named ▸ uuid_id (spelled n taken)
  unfold Books.existing
  rw [known, found]

theorem writesCatalog (regular : Regular how holds tempo s.store) (aside : s.cache.Aside)
    (held : holds w.store b) (solvent : b.Solvent) : s.WritesCatalog w b where
  created fields sound := by
    have comes := createProduct_comes regular aside held solvent.wellFormed solvent.inBounds fields
    rw [Books.fulfil_createProduct, NewProduct.flaw?_eq_none.mpr sound] at comes
    exact comes.1
  updated spelled fields p sound live := by
    have comes := updateProduct_comes regular aside held solvent.wellFormed solvent.inBounds p.id
      fields
    rw [Books.fulfil_updateProduct, NewProduct.flaw?_eq_none.mpr sound,
      existing_of_live solvent.wellFormed spelled live] at comes
    exact comes.1
  flawed fields e flaw := serve_flawedFields flaw
  missing id fields sound gone := by
    refine serve_missingProduct regular.toTruthful held solvent.wellFormed sound ?_
    rcases found : b.product? id with _ | p
    · rfl
    · obtain ⟨live, own⟩ := Books.product?_eq_some found
      exact absurd own (gone p live)

/-- A request that is served keeps the articles. -/
theorem serve_keeps (regular : Regular how holds tempo s.store) (aside : s.cache.Aside)
    (held : holds w.store b) (solvent : b.Solvent) (kept : b.WellKept log) (r : Request) :
    ∃ b', holds (s.serve r w).2.store b' ∧ b'.Solvent ∧
      b'.WellKept (log ++ [⟨r, (s.serve r w).1⟩]) := by
  have comes {late : Option Duration} (comes : Comes holds b (b.fulfil how late r) (s.serve r w)) :
      ∃ b', holds (s.serve r w).2.store b' ∧ b'.Solvent ∧
        b'.WellKept (log ++ [⟨r, (s.serve r w).1⟩]) := by
    refine ⟨_, comes.2, Books.fulfil_solvent solvent r, ?_⟩
    rw [comes.1]
    exact kept.fulfil solvent.wellFormed late r
  obtain ⟨late, -, fulfilled | ⟨-, left, -⟩⟩ :=
    serve_fulfils regular aside held solvent.wellFormed solvent.inBounds r
  · exact comes fulfilled
  · cases r with
    | createProduct fields =>
      exact comes (createProduct_comes regular aside held solvent.wellFormed solvent.inBounds
        fields)
    | updateProduct id fields =>
      exact comes (updateProduct_comes regular aside held solvent.wellFormed solvent.inBounds id
        fields)
    | _ => exact ⟨b, left, solvent, kept.unwritten rfl⟩

end Serve

end WalletLedger
