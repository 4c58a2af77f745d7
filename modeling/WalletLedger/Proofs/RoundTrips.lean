import WalletLedger.Proofs.Codec

/-!
# Round trips through JSON

A codec that is `Lawful` reads valid values back from what it writes, reads
nothing else, and never writes what it conceals. So a value survives its text
(`Retains.written`), and so does whatever was read from any text
(`Retains.rewritten`), but for the secrets of users: those are read where a
text has them, but written nowhere. `values_survive_json` says so of all that is
written and read.
-/

namespace WalletLedger

/-- The time of an entry is valid. -/
def Entry.IsTimely (e : Entry) : Prop :=
  e.createdAt.IsValid

namespace Codec

/-- Whatever is read satisfies a property. -/
def Yields {α : Type} [Codec α] (p : α → Prop) : Prop :=
  ∀ outer j a, decodeWithin? outer j = some a → p a

/-- A codec reads valid values back without what it conceals, reads valid values
only, and writes the same with and without what it conceals. -/
structure Lawful {α : Type} [Codec α] (valid : α → Prop) (conceal : α → α) : Prop where
  reads : ∀ a, valid a → ReadsAs a (conceal a)
  yields : Yields valid
  hidden : ∀ a, encode (conceal a) = encode a

/-- What comes of values that are written and read: all is kept but what is
concealed, whether the value was there first or was itself read from a text,
and what is concealed makes no difference to the text. -/
structure Retains {α : Type} [Codec α] (valid : α → Prop) (conceal : α → α) : Prop where
  written : ∀ a, valid a → read? (write a) = some (conceal a)
  rewritten : ∀ text a, read? text = some a → read? (write a) = some (conceal a)
  hidden : ∀ a, write (conceal a) = write a

section Laws

variable {α : Type} [Codec α] {valid : α → Prop} {conceal : α → α}

theorem Yields.of_read? (yields : Yields valid) {text : String} {a : α}
    (found : read? text = some a) : valid a := by
  obtain ⟨j, -, decoded⟩ := Option.bind_eq_some_iff.mp found
  exact yields 0 j a decoded

theorem Yields.of_required (yields : Yields valid) {outer : Nat} {field : Option Json} {a : α}
    (found : required outer field = some a) : valid a := by
  obtain ⟨j, -, decoded⟩ := Option.bind_eq_some_iff.mp found
  exact yields (outer + 1) j a decoded

theorem Lawful.retains (lawful : Lawful valid conceal) : Retains valid conceal where
  written a ok := (lawful.reads a ok).read?_write
  rewritten _ a found := (lawful.reads a (lawful.yields.of_read? found)).read?_write
  hidden a := congrArg Json.toText (lawful.hidden a)

/-- The elements of a list that is read are valid. -/
theorem Yields.list (yields : Yields valid) : Yields fun xs : List α => ∀ x ∈ xs, valid x := by
  intro outer j xs found
  cases j
  case array elements =>
    replace found : elements.mapM (decodeWithin? (outer + 1)) = some xs := found
    induction elements generalizing xs with
    | nil =>
      cases found
      exact fun x mem => absurd mem List.not_mem_nil
    | cons element elements ih =>
      simp only [List.mapM_cons, Option.bind_eq_bind, Option.bind_eq_some_iff] at found
      obtain ⟨x, first, others, rest, ends⟩ := found
      cases ends
      exact List.forall_mem_cons.mpr ⟨yields (outer + 1) element x first, ih others rest⟩
  all_goals cases found

theorem Lawful.list (lawful : Lawful valid conceal) :
    Lawful (fun xs : List α => ∀ x ∈ xs, valid x) (List.map conceal) where
  reads _ ok := readsAs_list fun x mem => lawful.reads x (ok x mem)
  yields := lawful.yields.list
  hidden xs := congrArg Json.array (by simp [lawful.hidden])

end Laws

/-! ## The codecs -/

theorem yields_timestamp : Yields Timestamp.IsValid := by
  intro outer j t found
  cases j
  case string value =>
    rcases value with _ | text
    · cases found
    · exact Timestamp.IsValid.of_read? found
  all_goals cases found

theorem lawful_newProduct : Lawful (fun _ : NewProduct => True) id where
  reads p _ := readsAs_newProduct p
  yields _ _ _ _ := trivial
  hidden _ := rfl

theorem lawful_product : Lawful Product.IsTimely id where
  reads _ ok := readsAs_product ok
  yields := by
    intro outer j p found
    simp only [decodeWithin?, Option.bind_eq_bind, Option.bind_eq_some_iff] at found
    obtain ⟨fields, -, found⟩ := found
    split at found
    · simp only [Option.bind_eq_some_iff, Option.some.injEq] at found
      obtain ⟨id, -, name, -, description, -, price, -, stock, -, created, first, updated, last,
        rfl⟩ := found
      exact ⟨yields_timestamp.of_required first, yields_timestamp.of_required last⟩
    · cases found
  hidden _ := rfl

theorem lawful_user : Lawful User.IsTimely User.withoutSecret where
  reads _ ok := readsAs_user ok
  yields := by
    intro outer j u found
    simp only [decodeWithin?, Option.bind_eq_bind, Option.bind_eq_some_iff] at found
    obtain ⟨fields, -, found⟩ := found
    split at found
    · simp only [Option.bind_eq_some_iff, Option.some.injEq] at found
      obtain ⟨id, -, username, -, email, -, hash, -, active, -, role, -, created, first, updated,
        last, rfl⟩ := found
      exact ⟨yields_timestamp.of_required first, yields_timestamp.of_required last⟩
    · cases found
  hidden _ := rfl

theorem lawful_wallet : Lawful Wallet.IsTimely Wallet.withoutSecret where
  reads _ ok := readsAs_wallet ok
  yields := by
    intro outer j w found
    obtain ⟨fields, -, found⟩ := Option.bind_eq_some_iff.mp found
    split at found
    · simp only [Option.bind_eq_bind, Option.bind_eq_some_iff] at found
      obtain ⟨id, -, userId, -, balance, -, created, first, updated, last, found⟩ := found
      replace first := yields_timestamp.of_required first
      replace last := yields_timestamp.of_required last
      -- An owner is read only from a member that is there and is not null.
      split at found
      · cases found
        exact ⟨first, last, fun _ absent => nomatch absent⟩
      · cases found
        exact ⟨first, last, fun _ absent => nomatch absent⟩
      · simp only [Option.bind_eq_some_iff, Option.map_eq_some_iff, Option.some.injEq] at found
        obtain ⟨_, ⟨u, decoded, rfl⟩, rfl⟩ := found
        refine ⟨first, last, fun owner same => ?_⟩
        cases same
        exact lawful_user.yields _ _ u decoded
    · cases found
  hidden w := by
    obtain ⟨id, userId, balance, createdAt, updatedAt, user⟩ := w
    cases user <;> rfl

theorem lawful_entry : Lawful Entry.IsTimely id where
  reads _ ok := readsAs_entry ok
  yields := by
    intro outer j e found
    cases j
    case object members =>
      simp only [decodeWithin?, Option.bind_eq_bind, Option.bind_eq_some_iff] at found
      obtain ⟨fields, -, found⟩ := found
      split at found
      · simp only [Option.ite_none_right_eq_some, Option.bind_eq_some_iff,
          Option.some.injEq] at found
        obtain ⟨-, _, -, _, -, type, -, id, -, walletId, -, kind, -, created, last, rfl⟩ := found
        exact yields_timestamp.of_required last
      · cases found
    all_goals cases found
  hidden _ := rfl

/-- Everything that is written as JSON survives it: entries, products and new
products and lists of them as they are, users, wallets and lists of wallets
without the secrets. The times of values that were not read themselves have to
be valid, as those of every year from 0 to 9999 are. -/
theorem values_survive_json :
    (∀ t : Timestamp, 0 ≤ t.date.year ∧ t.date.year ≤ 9999 → t.nanos < 1000000000 → t.IsValid) ∧
    Retains Entry.IsTimely id ∧
    Retains Product.IsTimely id ∧
    Retains (fun _ : NewProduct => True) id ∧
    Retains (fun es : List Entry => ∀ e ∈ es, e.IsTimely) id ∧
    Retains (fun ps : List Product => ∀ p ∈ ps, p.IsTimely) id ∧
    Retains User.IsTimely User.withoutSecret ∧
    Retains Wallet.IsTimely Wallet.withoutSecret ∧
    Retains (fun ws : List Wallet => ∀ w ∈ ws, w.IsTimely) (List.map Wallet.withoutSecret) := by
  refine ⟨fun _ => Timestamp.IsValid.of_year, lawful_entry.retains, lawful_product.retains,
    lawful_newProduct.retains, ?_, ?_, lawful_user.retains, lawful_wallet.retains,
    lawful_wallet.list.retains⟩
  · exact List.map_id_fun ▸ lawful_entry.list.retains
  · exact List.map_id_fun ▸ lawful_product.list.retains

/-- A secret in a text is read, but is not in the text that is written of what
was read. -/
theorem secret_is_not_rewritten : ∃ u : User,
    read? ("\x7b\"id\":\"u1\",\"username\":\"ada\",\"email\":\"ada@example.com\"," ++
      "\"password_hash\":\"secret\",\"active\":true,\"role_id\":2," ++
      "\"created_at\":\"2026-01-31T10:00:00Z\"," ++
      "\"updated_at\":\"2026-01-31T10:00:00Z\"\x7d") = some u ∧
      read? (write u) ≠ some u := by
  let time : Timestamp := ⟨1769853600, 0⟩
  let u : User := ⟨"u1", "ada", "ada@example.com", "secret", true, 2, time, time⟩
  have timely : u.IsTimely := ⟨.of_year (by decide) (by decide), .of_year (by decide) (by decide)⟩
  refine ⟨u, by decide +kernel, ?_⟩
  rw [(readsAs_user timely).read?_write]
  decide

end Codec

end WalletLedger
