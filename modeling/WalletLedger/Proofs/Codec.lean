import WalletLedger.Codec.Catalog
import WalletLedger.Codec.Identity
import WalletLedger.Codec.Ledger
import WalletLedger.Proofs.Json.RoundTrip
import WalletLedger.Proofs.Timestamp.RoundTrip

/-!
# Values read back from JSON

A value `ReadsAs` another when its JSON is plain and is decoded as that other,
whatever lies around it; then its text is read as that other too
(`ReadsAs.read?_write`). Products and entries are read as themselves, wallets
without the secrets of their owners, and lists element by element, as long as
their times are valid.
-/

namespace WalletLedger

/-- The times of a product are valid. -/
structure Product.IsTimely (p : Product) : Prop where
  created : p.createdAt.IsValid
  updated : p.updatedAt.IsValid

/-- The times of an identity record are valid. -/
structure User.IsTimely (u : User) : Prop where
  created : u.createdAt.IsValid
  updated : u.updatedAt.IsValid

/-- The times of a wallet and of its owner are valid. -/
structure Wallet.IsTimely (w : Wallet) : Prop where
  created : w.createdAt.IsValid
  updated : w.updatedAt.IsValid
  owner : ∀ u, w.user = some u → u.IsTimely

namespace Codec

open Json

/-- A value is read as another. -/
structure ReadsAs {α : Type} [Codec α] (a b : α) : Prop where
  plain : (encode a).isPlain
  decoded : ∀ outer, decodeWithin? outer (encode a) = some b

section Basic

variable {α : Type} [Codec α] {a b : α}

theorem ReadsAs.read?_write (h : ReadsAs a b) : read? (write a) = some b := by
  rw [read?, write, parse?_toText h.plain]
  exact h.decoded 0

theorem ReadsAs.required (h : ReadsAs a b) (outer : Nat) :
    required outer (some (encode a)) = some b :=
  h.decoded (outer + 1)

theorem readsAs_string (s : String) : ReadsAs s s := ⟨rfl, fun _ => rfl⟩

theorem readsAs_bool (b : Bool) : ReadsAs b b := ⟨rfl, fun _ => rfl⟩

theorem readsAs_int64 (n : Int64) : ReadsAs n n := by
  refine ⟨?_, fun _ => fit?_toInt n⟩
  obtain ⟨low, high⟩ := fits_toInt n
  show isHeldExactly n.toInt
  simp only [isHeldExactly, Bool.and_eq_true, decide_eq_true_eq]
  refine ⟨low, ?_⟩
  show n.toInt < 18446744073709551616
  omega

theorem readsAs_money (m : Money) : ReadsAs m m :=
  ⟨(readsAs_int64 m.cents).plain, fun outer => by
    show (decodeWithin? outer (encode m.cents)).map Money.mk = some m
    rw [(readsAs_int64 m.cents).decoded]
    rfl⟩

theorem readsAs_timestamp {t : Timestamp} (valid : t.IsValid) : ReadsAs t t :=
  ⟨rfl, fun _ => Timestamp.read?_text valid⟩

theorem readsAs_list {xs : List α} {f : α → α} (h : ∀ x ∈ xs, ReadsAs x (f x)) :
    ReadsAs xs (xs.map f) := by
  constructor
  · show arePlain (xs.map encode)
    induction xs with
    | nil => rfl
    | cons x xs ih =>
      have others := ih fun y mem => h y (List.mem_cons_of_mem x mem)
      simpa [arePlain, (h x List.mem_cons_self).plain] using others
  · intro outer
    show (xs.map encode).mapM (decodeWithin? (outer + 1)) = some (xs.map f)
    induction xs with
    | nil => rfl
    | cons x xs ih =>
      have others := ih fun y mem => h y (List.mem_cons_of_mem x mem)
      simp [(h x List.mem_cons_self).decoded, others]

end Basic

/-! ## Records -/

theorem membersArePlain_cons (key : String) (x : Json) (ms : List (Option String × Json)) :
    membersArePlain (member key x :: ms) = (x.isPlain && membersArePlain ms) := rfl

theorem readsAs_product {p : Product} (timely : p.IsTimely) : ReadsAs p p := by
  have created := readsAs_timestamp timely.created
  have updated := readsAs_timestamp timely.updated
  refine ⟨?_, fun outer => ?_⟩
  · have members : (encode p).isPlain = membersArePlain [
        member "id" (encode p.id), member "name" (encode p.name),
        member "description" (encode p.description), member "price" (encode p.price),
        member "stock" (encode p.stock), member "created_at" (encode p.createdAt),
        member "updated_at" (encode p.updatedAt)] := rfl
    simp only [members, membersArePlain_cons, (readsAs_string _).plain, (readsAs_money _).plain,
      (readsAs_int64 _).plain, created.plain, updated.plain]
    rfl
  · have fields : (encode p).fields? productFields = some [some (encode p.id),
        some (encode p.name), some (encode p.description), some (encode p.price),
        some (encode p.stock), some (encode p.createdAt), some (encode p.updatedAt)] := rfl
    simp only [decodeWithin?, fields, Option.bind_eq_bind, Option.bind_some,
      (readsAs_string _).required, (readsAs_money _).required, (readsAs_int64 _).required,
      created.required, updated.required]

theorem readsAs_newProduct (p : NewProduct) : ReadsAs p p := by
  refine ⟨?_, fun outer => ?_⟩
  · have members : (encode p).isPlain = membersArePlain [
        member "name" (encode p.name), member "description" (encode p.description),
        member "price" (encode p.price), member "stock" (encode p.stock)] := rfl
    simp only [members, membersArePlain_cons, (readsAs_string _).plain, (readsAs_money _).plain,
      (readsAs_int64 _).plain]
    rfl
  · have fields : (encode p).fields? newProductFields = some [some (encode p.name),
        some (encode p.description), some (encode p.price), some (encode p.stock)] := rfl
    have description : optional outer (some (encode p.description)) "" = some p.description :=
      (readsAs_string _).decoded (outer + 1)
    simp only [decodeWithin?, fields, Option.bind_eq_bind, Option.bind_some, description,
      (readsAs_string _).required, (readsAs_money _).required, (readsAs_int64 _).required]

theorem readsAs_user {u : User} (timely : u.IsTimely) : ReadsAs u u.withoutSecret := by
  have created := readsAs_timestamp timely.created
  have updated := readsAs_timestamp timely.updated
  refine ⟨?_, fun outer => ?_⟩
  · have members : (encode u).isPlain = membersArePlain [
        member "id" (encode u.id), member "username" (encode u.username),
        member "email" (encode u.email), member "active" (encode u.active),
        member "role_id" (encode u.roleId), member "created_at" (encode u.createdAt),
        member "updated_at" (encode u.updatedAt)] := rfl
    simp only [members, membersArePlain_cons, (readsAs_string _).plain, (readsAs_bool _).plain,
      (readsAs_int64 _).plain, created.plain, updated.plain]
    rfl
  · have fields : (encode u).fields? userFields = some [some (encode u.id),
        some (encode u.username), some (encode u.email), none, some (encode u.active),
        some (encode u.roleId), some (encode u.createdAt), some (encode u.updatedAt)] := rfl
    simp only [decodeWithin?, fields, Option.bind_eq_bind, Option.bind_some,
      (readsAs_string _).required, (readsAs_bool _).required, (readsAs_int64 _).required,
      created.required, updated.required]
    rfl

theorem readsAs_wallet {w : Wallet} (timely : w.IsTimely) : ReadsAs w w.withoutSecret := by
  have created := readsAs_timestamp timely.created
  have updated := readsAs_timestamp timely.updated
  refine ⟨?_, fun outer => ?_⟩
  · have owner : membersArePlain (w.user.map fun u => member "user" (encode u)).toList := by
      rcases there : w.user with _ | u
      · rfl
      · show membersArePlain [member "user" (encode u)]
        rw [membersArePlain_cons, (readsAs_user (timely.owner u there)).plain]
        rfl
    have members : (encode w).isPlain = membersArePlain (
        member "id" (encode w.id) :: member "user_id" (encode w.userId) ::
        member "balance" (encode w.balance) :: member "created_at" (encode w.createdAt) ::
        member "updated_at" (encode w.updatedAt) ::
        (w.user.map fun u => member "user" (encode u)).toList) := rfl
    simp only [members, membersArePlain_cons, (readsAs_string _).plain, (readsAs_money _).plain,
      created.plain, updated.plain, owner, Bool.and_self]
  · have fields : (encode w).fields? walletFields = some [some (encode w.id),
        some (encode w.userId), some (encode w.balance), some (encode w.createdAt),
        some (encode w.updatedAt), w.user.map encode] := by
      obtain ⟨id, userId, balance, createdAt, updatedAt, user⟩ := w
      cases user <;> rfl
    simp only [decodeWithin?, fields, Option.bind_eq_bind, Option.bind_some,
      (readsAs_string _).required, (readsAs_money _).required,
      created.required, updated.required]
    rcases owner : w.user with _ | u
    · simp [Wallet.withoutSecret, owner]
    · show ((decodeWithin? (outer + 1) (encode u)).map some).bind _ = _
      rw [(readsAs_user (timely.owner u owner)).decoded]
      simp [Wallet.withoutSecret, owner]

/-! ## Entries -/

theorem isHoldable_int64 (room : Nat) (n : Int64) : isHoldable room (encode n) := by
  have limit : 9223372036854775809 ≤ Number.limit := by decide
  obtain ⟨low, high⟩ := fits_toInt n
  show Number.isFinite (.integer n.toInt)
  simp only [Number.isFinite, decide_eq_true_eq]
  omega

theorem membersAreHoldable_cons (room : Nat) (key : String) (x : Json)
    (ms : List (Option String × Json)) : membersAreHoldable room (member key x :: ms) =
      (isHoldable room x && membersAreHoldable room ms) := rfl

/-- The members of a kind can be held, however deep they lie. -/
theorem holdable_kindMembers (room : Nat) (k : EntryKind) :
    membersAreHoldable room (kindMembers k) := by
  have amount (m : Money) : isHoldable room (encode m) := isHoldable_int64 room m.cents
  have text (s : String) : isHoldable room (encode s) := rfl
  cases k with
  | deposit a | withdraw a =>
    show membersAreHoldable room [member "type" (encode _), member "amount" (encode a)]
    simp only [membersAreHoldable_cons, amount]
    rfl
  | purchase p q a =>
    show membersAreHoldable room [member "type" (encode _), member "product_id" (encode p),
      member "quantity" (encode q), member "amount" (encode a)]
    simp only [membersAreHoldable_cons, text, isHoldable_int64, amount]
    rfl

theorem kindOfMembers?_kindMembers (outer : Nat) (k : EntryKind) :
    kindOfMembers? outer k.type (kindMembers k) = some k := by
  cases k with
  | deposit a =>
    show (required outer (some (encode a))).map EntryKind.deposit = _
    rw [(readsAs_money a).required]
    rfl
  | withdraw a =>
    show (required outer (some (encode a))).map EntryKind.withdraw = _
    rw [(readsAs_money a).required]
    rfl
  | purchase p q a =>
    show kindOfFields? outer .purchase [some (encode p), some (encode q), some (encode a)] = _
    simp only [kindOfFields?, (readsAs_string _).required, (readsAs_int64 _).required,
      (readsAs_money _).required, Option.bind_eq_bind, Option.bind_some]

theorem plain_kindMembers (k : EntryKind) (ms : List (Option String × Json))
    (plain : membersArePlain ms) : membersArePlain (kindMembers k ++ ms) := by
  cases k with
  | deposit a | withdraw a =>
    show membersArePlain (member "type" (encode _) :: member "amount" (encode a) :: ms)
    simp only [membersArePlain_cons, (readsAs_money _).plain, plain]
    rfl
  | purchase p q a =>
    show membersArePlain (member "type" (encode _) :: member "product_id" (encode p) ::
      member "quantity" (encode q) :: member "amount" (encode a) :: ms)
    simp only [membersArePlain_cons, (readsAs_string _).plain, (readsAs_int64 _).plain,
      (readsAs_money _).plain, plain]
    rfl

/-- The members of an entry. -/
def entryMembers (e : Entry) : List (Option String × Json) :=
  member "id" (encode e.id) :: member "wallet_id" (encode e.walletId) ::
    (kindMembers e.kind ++ [member "created_at" (encode e.createdAt)])

/-- Without the fields of the entry itself the members of its kind are left. -/
theorem filter_entryMembers (e : Entry) {keeps : Option String × Json → Bool}
    (others : ∀ key x, keeps (some key, x) = !entryFields.contains key) :
    (entryMembers e).filter keeps = kindMembers e.kind := by
  obtain ⟨id, walletId, kind, createdAt⟩ := e
  have own (key : String) (x : Json) : keeps (member key x) = !entryFields.contains key :=
    others key x
  cases kind <;> simp [entryMembers, kindMembers, EntryKind.productId?, EntryKind.quantity?, own,
    entryFields]

theorem fields?_entryMembers (e : Entry) : fields? entryFields (.object (entryMembers e)) =
    some [some (encode e.id), some (encode e.walletId), some (encode e.createdAt)] := by
  obtain ⟨id, walletId, kind, createdAt⟩ := e
  cases kind <;> rfl

theorem readsAs_entry {e : Entry} (valid : e.createdAt.IsValid) : ReadsAs e e := by
  have created := readsAs_timestamp valid
  refine ⟨?_, fun outer => ?_⟩
  · have last : membersArePlain [member "created_at" (encode e.createdAt)] := by
      rw [membersArePlain_cons, created.plain]
      rfl
    show membersArePlain (entryMembers e)
    simp only [entryMembers, membersArePlain_cons, (readsAs_string _).plain,
      plain_kindMembers e.kind _ last, Bool.and_self]
  · have type : field? "type" (kindMembers e.kind) = some (some (encode e.kind.type)) := by
      cases e.kind <;> rfl
    have tag : heldTag? (encode e.kind.type) = some e.kind.type := by
      cases e.kind <;> rfl
    show decodeWithin? outer (.object (entryMembers e)) = some e
    simp only [decodeWithin?, fields?_entryMembers, Option.bind_eq_bind, Option.bind_some]
    rw [filter_entryMembers e]
    · simp only [holdable_kindMembers, type, tag, kindOfMembers?_kindMembers,
        (readsAs_string _).required, created.required, Option.bind_some, ↓reduceIte]
    · exact fun _ _ => rfl

end Codec

end WalletLedger
