import WalletLedger.Proofs.Books.Isolation
import WalletLedger.Proofs.Database.Movements
import WalletLedger.Proofs.Services.Wallets

/-!
# Movements that commute

A movement reads and writes the wallet of its user, the product that it is about and the end of the
ledger. Two movements are `Movement.Apart` when they are of two users and not about the same
product. Then neither of them changes what the other comes to (`told_after`), and what they do to
the rows can be done in either order: wallets and articles are the same but for the time of their
last change, and so is the history of every user but for the stamps of new entries (`after_agree`).
-/

namespace WalletLedger

open Memory

/-! ## What stamps do not tell -/

/-- The entry without its stamp. -/
def Entry.unstamped (e : Entry) : Entry := { e with id := "", createdAt := ⟨0, 0⟩ }

/-- The wallet without the time of its last change. -/
def Wallet.untimed (w : Wallet) : Wallet := { w with updatedAt := ⟨0, 0⟩ }

/-- The article without the time of its last change. -/
def Article.untimed (a : Article) : Article :=
  { a with product := { a.product with updatedAt := ⟨0, 0⟩ } }

/-- The reply without the stamp of a new entry. -/
def Reply.unstamped : Reply → Reply
  | .entry e => .entry e.unstamped
  | r => r

/-- The entry that was made, if there is one. -/
def entryOf? : Except Failure (Outcome Reply) → Option Entry
  | .ok ⟨_, .entry e⟩ => some e
  | _ => none

theorem entryOf?_unstamped (r : Except Failure (Outcome Reply)) :
    entryOf? (r.map (Outcome.map Reply.unstamped)) = (entryOf? r).map Entry.unstamped := by
  rcases r with _ | ⟨_, _ | _ | _ | _ | _ | _ | _ | _⟩ <;> rfl

/-- Movements of two users that are not about the same product. -/
def Movement.Apart (x y : Movement) : Prop :=
  x.user ≠ y.user ∧ ∀ id, x.product? = some id → y.product? ≠ some id

theorem Movement.Apart.symm {x y : Movement} (apart : x.Apart y) : y.Apart x :=
  ⟨apart.1.symm, fun id yours mine => apart.2 id mine yours⟩

namespace Memory.Books

variable {how : Manner} {b b' : Books} {m x y : Movement} {e : Entry}

/-- What is answered to a movement that is not late. -/
def told (how : Manner) (b : Books) (m : Movement) : Except Failure (Outcome Reply) :=
  (b.fulfil how none m.request).map Prod.fst

/-- The books after a movement that is not late. -/
def after (how : Manner) (b : Books) (m : Movement) : Books :=
  b.leaves (b.fulfil how none m.request)

/-- What the entry of a movement says, if the movement is carried out. -/
def kind? (how : Manner) (b : Books) (m : Movement) : Option EntryKind :=
  (entryOf? (b.told how m)).map (·.kind)

/-- A movement is refused and changes nothing, or it is carried out. -/
inductive Settled (b : Books) (m : Movement) : Except Failure (Outcome Reply) → Books → Prop
  | refused {cause : LedgerError} (hindered : m.flaw?.or (b.hindrance? m) = some cause) :
    Settled b m (.error (.refused cause)) b
  | carried {e : Entry} {b' : Books} (free : m.flaw?.or (b.hindrance? m) = none)
      (carried : b.Carried m e b') : Settled b m (.ok (.created (.entry e))) b'

theorem settled (how : Manner) (solvent : b.Solvent) (m : Movement) :
    b.Settled m (b.told how m) (b.after how m) := by
  unfold told after
  rw [fulfil_movement, move]
  rcases flaw : m.flaw? with _ | cause
  · rcases hindrance : b.hindrance? m with _ | cause
    · obtain ⟨e, b', responded : b.respond how m.call = _, carried⟩ :=
        respond_of_no_hindrance solvent.wellFormed solvent.inBounds flaw hindrance
      simp only [comesTo, responded]
      exact .carried (by rw [flaw, hindrance]; rfl) carried
    · simp only [comesTo, respond_of_hindrance solvent.inBounds flaw hindrance]
      exact .refused (by rw [flaw, hindrance]; rfl)
  · exact .refused (by rw [flaw]; rfl)

theorem after_solvent (how : Manner) (solvent : b.Solvent) (m : Movement) :
    (b.after how m).Solvent :=
  fulfil_solvent solvent m.request

/-- A movement leaves the wallets and histories of others alone. -/
theorem after_untouched (wf : b.WellFormed) {user : String} (other : m.user ≠ user) :
    Untouched user b (b.after how m) := by
  refine fulfil_untouched wf fun own => other ?_
  cases m <;> exact Option.some.inj own

/-! ## What is nothing to another movement -/

/-- The entry of a movement is about its product. -/
theorem Records.productId? {k : EntryKind} (records : b.Records k m) :
    k.productId? = m.product? := by
  cases m with
  | deposit | withdraw =>
    obtain rfl := records
    rfl
  | purchase =>
    obtain ⟨p, total, -, -, rfl⟩ := records
    rfl

theorem productId?_of_kind? (solvent : b.Solvent) {k : EntryKind} (mem : k ∈ b.kind? how m) :
    k.productId? = m.product? := by
  have settled := settled how solvent m
  unfold kind? at mem
  generalize b.told how m = r, b.after how m = b' at settled mem
  cases settled with
  | refused => cases mem
  | carried _ carried =>
    obtain rfl := Option.some.inj mem
    exact carried.kind.productId?

/-- The entry of a movement says nothing but what is moved. -/
theorem Records.unique {k k' : EntryKind} (records : b.Records k m) (records' : b.Records k' m) :
    k = k' := by
  cases m with
  | deposit | withdraw => exact records.trans records'.symm
  | purchase =>
    obtain ⟨p, total, live, cost, rfl⟩ := records
    obtain ⟨p', total', live', cost', rfl⟩ := records'
    obtain rfl := Option.some.inj (live.symm.trans live')
    rw [Money.eq_ofCents cost, Money.eq_ofCents cost']

/-- Rows that are selected are found as they were when they were not touched. -/
theorem find?_of_forall₂ {α : Type} {R : α → α → Prop} {selects : α → Bool} {l l' : List α}
    (moved : List.Forall₂ R l l')
    (kept : ∀ a a', R a a' → selects a' = selects a ∧ (selects a = true → a' = a)) :
    l'.find? selects = l.find? selects := by
  induction moved with
  | nil => rfl
  | @cons a a' l l' one _ ih =>
    obtain ⟨same, still⟩ := kept a a' one
    rw [List.find?_cons, List.find?_cons, same, ih]
    rcases selected : selects a with _ | _
    · rfl
    · rw [still selected]

/-- Products that a movement is not about stay as they are. -/
theorem after_product? (solvent : b.Solvent) {id : String} (other : m.product? ≠ some id) :
    (b.after how m).product? id = b.product? id := by
  have found : (b.after how m).article? id = b.article? id := by
    have settled := settled how solvent m
    generalize b.told how m = r, b.after how m = b' at settled ⊢
    cases settled with
    | refused => rfl
    | carried _ carried =>
      refine find?_of_forall₂ carried.articles fun a a' one => ?_
      rw [ArticleMoved, carried.kind.productId?] at one
      by_cases own : m.product? = some a.product.id <;> simp only [own, ↓reduceIte] at one
      · have apart : a.product.id ≠ id := fun same => other (own.trans (congrArg some same))
        rw [one.1]
        simp [apart]
      · exact one ▸ ⟨rfl, fun _ => rfl⟩
  rw [product?, product?, found]

section Apart

variable (solvent : b.Solvent) (apart : x.Apart y)
include solvent apart

theorem after_wallet?_apart : (b.after how x).wallet? y.user = b.wallet? y.user :=
  (after_untouched solvent.wellFormed apart.1).wallet

theorem after_product?_apart {id : String} (about : y.product? = some id) :
    (b.after how x).product? id = b.product? id :=
  after_product? solvent fun same => apart.2 id same about

theorem after_hindrance? : (b.after how x).hindrance? y = b.hindrance? y := by
  unfold hindrance?
  rw [after_wallet?_apart solvent apart]
  cases y with
  | deposit | withdraw => rfl
  | purchase user id quantity =>
    simp only [shortfall?, after_product?_apart solvent apart (show _ = some id from rfl)]

theorem after_records {k : EntryKind} (records : (b.after how x).Records k y) : b.Records k y := by
  cases y with
  | deposit | withdraw => exact records
  | purchase user id quantity =>
    rwa [Records, after_product?_apart solvent apart (show _ = some id from rfl)] at records

/-- A movement is answered as it would have been without the other one. -/
theorem told_after :
    ((b.after how x).told how y).map (Outcome.map Reply.unstamped) =
      (b.told how y).map (Outcome.map Reply.unstamped) := by
  have first := settled how solvent y
  have second := settled how (after_solvent how solvent x) y
  have hindrance : (b.after how x).hindrance? y = b.hindrance? y :=
    after_hindrance? solvent apart
  generalize b.told how y = r, b.after how y = b₁ at first
  generalize (b.after how x).told how y = r', (b.after how x).after how y = b₂ at second
  cases first with
  | refused hindered =>
    cases second with
    | refused hindered' =>
      rw [hindrance, hindered] at hindered'
      cases hindered'
      rfl
    | carried free =>
      rw [hindrance, hindered] at free
      cases free
  | @carried e _ free carried =>
    cases second with
    | refused hindered =>
      rw [hindrance, free] at hindered
      cases hindered
    | @carried e' _ _ carried' =>
      have kind : e'.kind = e.kind :=
        (after_records solvent apart carried'.kind).unique carried.kind
      have walletId : e'.walletId = e.walletId := by
        obtain ⟨w, holder, own⟩ := carried.holder
        obtain ⟨w', holder', own'⟩ := carried'.holder
        rw [after_wallet?_apart solvent apart, holder] at holder'
        rw [own, own', Option.some.inj holder']
      have unstamped : e'.unstamped = e.unstamped := by
        simp only [Entry.unstamped, kind, walletId]
      exact congrArg (fun e => Except.ok (Outcome.created (Reply.entry e))) unstamped

end Apart

/-! ## What a movement does to the rows -/

/-- The wallet of a user after an entry. -/
def credited (user : String) (k? : Option EntryKind) (w : Wallet) : Wallet :=
  match k? with
  | some k =>
    if w.userId = user then { w with balance := .ofCents (w.balance.value + k.effect) } else w
  | none => w

/-- The article that an entry is about after it. -/
def taken (k? : Option EntryKind) (a : Article) : Article :=
  match k? with
  | some k =>
    if k.productId? = some a.product.id then
      { a with product := { a.product with stock := .ofInt (a.product.stock.toInt - k.units) } }
    else a
  | none => a

theorem credited_comm {user user' : String} (other : user ≠ user') (k? k'? : Option EntryKind)
    (w : Wallet) :
    credited user k? (credited user' k'? w) = credited user' k'? (credited user k? w) := by
  rcases k? with _ | k
  · rfl
  rcases k'? with _ | k'
  · rfl
  by_cases own : w.userId = user
  · have apart : w.userId ≠ user' := own ▸ other
    simp [credited, own, other]
  · by_cases own' : w.userId = user' <;> simp [credited, own, own', other.symm]

theorem taken_comm {k? k'? : Option EntryKind}
    (other : ∀ k ∈ k?, ∀ k' ∈ k'?, ∀ id, k.productId? = some id → k'.productId? ≠ some id)
    (a : Article) : taken k? (taken k'? a) = taken k'? (taken k? a) := by
  rcases k? with _ | k
  · rfl
  rcases k'? with _ | k'
  · rfl
  by_cases own : k.productId? = some a.product.id
  · have apart : k'.productId? ≠ some a.product.id := other k rfl k' rfl _ own
    simp [taken, own, apart]
  · by_cases own' : k'.productId? = some a.product.id <;> simp [taken, own, own']

theorem map_eq_of_forall₂ {α β γ : Type} {R : α → β → Prop} {f : β → γ} {g : α → γ} {l : List α}
    {l' : List β} (moved : List.Forall₂ R l l') (eq : ∀ a b, R a b → f b = g a) :
    l'.map f = l.map g := by
  induction moved with
  | nil => rfl
  | cons one _ ih => rw [List.map_cons, List.map_cons, eq _ _ one, ih]

section Rows

variable (solvent : b.Solvent)
include solvent

theorem after_wallets (m : Movement) : (b.after how m).wallets.map Wallet.untimed =
    (b.wallets.map Wallet.untimed).map (credited m.user (b.kind? how m)) := by
  have settled := settled how solvent m
  unfold kind?
  generalize b.told how m = r, b.after how m = b' at settled ⊢
  cases settled with
  | refused => exact (List.map_id _).symm
  | @carried e _ _ carried =>
    rw [List.map_map]
    refine map_eq_of_forall₂ carried.wallets fun w w' one => ?_
    show w'.untimed = credited m.user (some e.kind) w.untimed
    unfold WalletMoved at one
    by_cases own : w.userId = m.user <;> simp only [own, ↓reduceIte] at one
    · obtain ⟨same, exact⟩ := one
      rw [same]
      simp only [credited, Wallet.untimed, own, ↓reduceIte, ← Money.eq_ofCents exact]
    · rw [one]
      exact (if_neg own).symm

theorem after_articles (m : Movement) : (b.after how m).articles.map Article.untimed =
    (b.articles.map Article.untimed).map (taken (b.kind? how m)) := by
  have settled := settled how solvent m
  unfold kind?
  generalize b.told how m = r, b.after how m = b' at settled ⊢
  cases settled with
  | refused => exact (List.map_id _).symm
  | @carried e _ _ carried =>
    rw [List.map_map]
    refine map_eq_of_forall₂ carried.articles fun a a' one => ?_
    show a'.untimed = taken (some e.kind) a.untimed
    unfold ArticleMoved at one
    by_cases own : e.kind.productId? = some a.product.id <;> simp only [own, ↓reduceIte] at one
    · obtain ⟨same, left⟩ := one
      have stock : a'.product.stock = .ofInt (a.product.stock.toInt - e.kind.units) := by
        rw [← left, Int64.ofInt_toInt]
      rw [same]
      simp only [taken, Article.untimed, own, ↓reduceIte, ← stock]
    · rw [one]
      exact (if_neg own).symm

theorem after_entries (m : Movement) :
    (b.after how m).entries = b.entries ++ (entryOf? (b.told how m)).toList := by
  have settled := settled how solvent m
  generalize b.told how m = r, b.after how m = b' at settled ⊢
  cases settled with
  | refused => exact (List.append_nil _).symm
  | carried _ carried => exact carried.entries

theorem after_history (m : Movement) :
    (b.after how m).history m.user = (entryOf? (b.told how m)).toList ++ b.history m.user := by
  have settled := settled how solvent m
  generalize b.told how m = r, b.after how m = b' at settled ⊢
  cases settled with
  | refused => rfl
  | @carried e b' _ carried =>
    obtain ⟨w, holder, own⟩ := carried.holder
    have rows : b'.wallets.map (fun w => (w.userId, w.id)) =
        b.wallets.map fun w => (w.userId, w.id) :=
      map_eq_of_forall₂ carried.wallets fun w w' one => by
        unfold WalletMoved at one
        split at one
        · rw [one.1]
        · rw [one]
    have id := (walletId?_of_rows rows m.user).trans (walletId?_eq_some holder)
    obtain ⟨w', holder', same⟩ := Option.map_eq_some_iff.mp id
    have mine : (e.walletId == w.id) = true := by rw [own, beq_self_eq_true]
    simp only [history, holder, holder', listEntries, carried.entries, List.reverse_append,
      List.reverse_singleton, List.singleton_append, same]
    exact List.filter_cons_of_pos mine

end Rows

/-! ## Two movements in either order -/

/-- Books whose rows and histories are the same, but for the times of changes and the stamps of
entries. -/
structure AgreeButStamps (b b' : Books) : Prop where
  wallets : b.wallets.map Wallet.untimed = b'.wallets.map Wallet.untimed
  articles : b.articles.map Article.untimed = b'.articles.map Article.untimed
  history : ∀ user, (b.history user).map Entry.unstamped = (b'.history user).map Entry.unstamped

section Apart

variable (solvent : b.Solvent) (apart : x.Apart y)
include solvent apart

theorem unstamped_entryOf? : (entryOf? ((b.after how x).told how y)).toList.map Entry.unstamped =
    (entryOf? (b.told how y)).toList.map Entry.unstamped := by
  rw [← Option.toList_map, ← Option.toList_map, ← entryOf?_unstamped, ← entryOf?_unstamped,
    told_after solvent apart]

theorem kind?_after : (b.after how x).kind? how y = b.kind? how y := by
  have unstamped (r : Except Failure (Outcome Reply)) : (entryOf? r).map (·.kind) =
      (entryOf? (r.map (Outcome.map Reply.unstamped))).map (·.kind) := by
    rw [entryOf?_unstamped, Option.map_map]
    rfl
  rw [kind?, kind?, unstamped, told_after solvent apart, ← unstamped]

/-- The history of the user of the movement that comes first. -/
theorem history_first : ((b.after how x).after how y).history x.user =
    (entryOf? (b.told how x)).toList ++ b.history x.user := by
  have solvent' := after_solvent how solvent x
  rw [(after_untouched solvent'.wellFormed apart.1.symm).history, after_history solvent]

/-- The history of the user of the movement that comes last. -/
theorem history_last : ((b.after how x).after how y).history y.user =
    (entryOf? ((b.after how x).told how y)).toList ++ b.history y.user := by
  rw [after_history (after_solvent how solvent x),
    (after_untouched solvent.wellFormed apart.1).history]

/-- Movements that are apart come to the same rows in either order. -/
theorem after_agree :
    AgreeButStamps ((b.after how x).after how y) ((b.after how y).after how x) := by
  have solventx := after_solvent how solvent x
  have solventy := after_solvent how solvent y
  refine ⟨?_, ?_, fun user => ?_⟩
  · rw [after_wallets solventx, after_wallets solvent, after_wallets solventy,
      after_wallets solvent, kind?_after solvent apart, kind?_after solvent apart.symm]
    simp only [List.map_map]
    exact List.map_congr_left fun w _ => credited_comm apart.1.symm _ _ w.untimed
  · rw [after_articles solventx, after_articles solvent, after_articles solventy,
      after_articles solvent, kind?_after solvent apart, kind?_after solvent apart.symm]
    simp only [List.map_map]
    refine List.map_congr_left fun a _ => taken_comm (fun k mem k' mem' id own => ?_) a.untimed
    rw [productId?_of_kind? solvent mem] at own
    rw [productId?_of_kind? solvent mem']
    exact apart.symm.2 id own
  · by_cases own : x.user = user
    · subst own
      rw [history_first solvent apart, history_last solvent apart.symm, List.map_append,
        List.map_append, unstamped_entryOf? solvent apart.symm]
    by_cases own' : y.user = user
    · subst own'
      rw [history_first solvent apart.symm, history_last solvent apart, List.map_append,
        List.map_append, unstamped_entryOf? solvent apart]
    · rw [(after_untouched solventx.wellFormed own').history,
        (after_untouched solvent.wellFormed own).history,
        (after_untouched solventy.wellFormed own).history,
        (after_untouched solvent.wellFormed own').history]

end Apart

end Memory.Books

end WalletLedger
