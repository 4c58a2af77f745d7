import WalletLedger.Codec.Basic
import WalletLedger.Entry

/-!
# Ledger entries in JSON

An entry is one object: its own fields and, between them, those of its kind,
which the member `type` selects. To find the fields of the kind, whatever the
order of the members, every member that is not the entry's own is held before
it is read, so each of them has to be holdable. Fields that the kind does not
have are passed over.
-/

namespace WalletLedger.Codec

/-- How many containers may be nested around a held value and in it. -/
def maxNesting : Nat := 127

instance : Codec EntryType where
  encode t := encode t.name
  decodeWithin? _
    | .string (some s) => EntryType.ofName? s
    | .object [(some s, .null)] => EntryType.ofName? s
    | _ => none

/-- The members that hold the fields of a kind. -/
def kindMembers (k : EntryKind) : List (Option String × Json) :=
  Json.member "type" (encode k.type) ::
    (k.productId?.map fun p => Json.member "product_id" (encode p)).toList ++
    (k.quantity?.map fun q => Json.member "quantity" (encode q)).toList ++
    [Json.member "amount" (encode k.amount)]

/-- The fields of a kind, in the order in which an array lists them. -/
def kindFields : EntryType → List String
  | .deposit | .withdraw => ["amount"]
  | .purchase => ["product_id", "quantity", "amount"]

/-- The kind that a tag and its fields make. -/
def kindOfFields? (outer : Nat) : EntryType → List (Option Json) → Option EntryKind
  | .deposit, [amount] => (required outer amount).map .deposit
  | .withdraw, [amount] => (required outer amount).map .withdraw
  | .purchase, [product, quantity, amount] => do
    let product ← required outer product
    let quantity ← required outer quantity
    some (.purchase product quantity (← required outer amount))
  | _, _ => none

/-- The kind that a tag selects among held members. -/
def kindOfMembers? (outer : Nat) (type : EntryType) (members : List (Option String × Json)) :
    Option EntryKind := do
  kindOfFields? outer type (← Json.fields? (kindFields type) (.object members))

/-- The tag that a string names. -/
def tag? : Json → Option EntryType
  | .string (some s) => EntryType.ofName? s
  | _ => none

/-- The tag of a held value: a name, or the index of a kind. -/
def heldTag? : Json → Option EntryType
  | .number (.integer n) => if 0 ≤ n then EntryType.all[n.toNat]? else none
  | j => tag? j

instance : Codec EntryKind where
  encode k := .object (kindMembers k)
  decodeWithin? outer
    | .object members => do
      let held := members.filter fun (key, _) => key ≠ some "type"
      if Json.membersAreHoldable (maxNesting - (outer + 1)) held then
        let type ← tag? (← (← Json.field? "type" members))
        kindOfMembers? outer type held
      else none
    | .array (tag :: fields) => do
      let type ← tag? tag
      if Json.areHoldable (maxNesting - (outer + 1)) fields then
        if fields.length = (kindFields type).length then
          kindOfFields? outer type (fields.map some)
        else none
      else none
    | _ => none

/-- The fields of an entry that are not those of its kind. -/
def entryFields : List String :=
  ["id", "wallet_id", "created_at"]

instance : Codec Entry where
  encode e := .object ([
    Json.member "id" (encode e.id),
    Json.member "wallet_id" (encode e.walletId)] ++ kindMembers e.kind ++ [
    Json.member "created_at" (encode e.createdAt)])
  decodeWithin? outer
    | .object members => do
      match ← Json.fields? entryFields (.object members) with
      | [id, walletId, created] =>
        let held := members.filter fun (key, _) =>
          match key with
          | some k => !entryFields.contains k
          | none => true
        if Json.membersAreHoldable (maxNesting - (outer + 1)) held then
          let type ← heldTag? (← (← Json.field? "type" held))
          some {
            id := ← required outer id
            walletId := ← required outer walletId
            kind := ← kindOfMembers? outer type held
            createdAt := ← required outer created }
        else none
      | _ => none
    | _ => none

end WalletLedger.Codec
