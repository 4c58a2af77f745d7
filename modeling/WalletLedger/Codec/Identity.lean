import WalletLedger.Codec.Basic
import WalletLedger.Wallet

/-!
# Users and wallets in JSON

The password hash is read but never written; it is empty when it is missing.
A wallet without identity record has no member for it.
-/

namespace WalletLedger.Codec

/-- The fields of an identity record, in the order in which an array lists them. -/
def userFields : List String :=
  ["id", "username", "email", "password_hash", "active", "role_id", "created_at", "updated_at"]

instance : Codec User where
  encode u := .object [
    Json.member "id" (encode u.id),
    Json.member "username" (encode u.username),
    Json.member "email" (encode u.email),
    Json.member "active" (encode u.active),
    Json.member "role_id" (encode u.roleId),
    Json.member "created_at" (encode u.createdAt),
    Json.member "updated_at" (encode u.updatedAt)]
  decodeWithin? outer j := do
    match ← j.fields? userFields with
    | [id, username, email, hash, active, role, created, updated] =>
      some {
        id := ← required outer id
        username := ← required outer username
        email := ← required outer email
        passwordHash := ← optional outer hash ""
        active := ← required outer active
        roleId := ← required outer role
        createdAt := ← required outer created
        updatedAt := ← required outer updated }
    | _ => none

/-- The fields of a wallet, in the order in which an array lists them. -/
def walletFields : List String :=
  ["id", "user_id", "balance", "created_at", "updated_at", "user"]

instance : Codec Wallet where
  encode w := .object ([
    Json.member "id" (encode w.id),
    Json.member "user_id" (encode w.userId),
    Json.member "balance" (encode w.balance),
    Json.member "created_at" (encode w.createdAt),
    Json.member "updated_at" (encode w.updatedAt)] ++
    (w.user.map fun u => Json.member "user" (encode u)).toList)
  decodeWithin? outer j := do
    match ← j.fields? walletFields with
    | [id, userId, balance, created, updated, user] =>
      some {
        id := ← required outer id
        userId := ← required outer userId
        balance := ← required outer balance
        createdAt := ← required outer created
        updatedAt := ← required outer updated
        user := ← match user with
          | none | some .null => some none
          | some j => (decodeWithin? (outer + 1) j).map some }
    | _ => none

end WalletLedger.Codec
