import WalletLedger.Codec.Identity
import WalletLedger.LedgerError

/-!
# Outcomes

What a service hands back: a status and data, or a refusal with status, code
and a body for the wire. The body of a storage fault keeps the detail to
itself, and a body never shows a password hash.
-/

namespace WalletLedger

/-- A status code. -/
structure Status where
  code : Nat
deriving DecidableEq, Repr, Inhabited

namespace Status

/-- The request was carried out. -/
def ok : Status := ⟨200⟩

/-- The request made something new. -/
def created : Status := ⟨201⟩

/-- The request breaks a rule, or asks for more than there is. -/
def badRequest : Status := ⟨400⟩

/-- What the request names is not there. -/
def notFound : Status := ⟨404⟩

/-- The request is at odds with what is there, or with another request. -/
def conflict : Status := ⟨409⟩

/-- The store failed. -/
def internalServerError : Status := ⟨500⟩

/-- The deadline passed. -/
def gatewayTimeout : Status := ⟨504⟩

/-- Whether a status reports success. -/
def isSuccess (s : Status) : Bool := 200 ≤ s.code && s.code < 300

/-- The text of a status. -/
def text (s : Status) : String := Text.ofNat s.code

/-- The status with which an error is reported. -/
def ofError (e : LedgerError) : Status :=
  match e with
  | .deadlineExceeded _ => gatewayTimeout
  | _ =>
    match e.kind with
    | .invalidInput | .insufficientBalance | .insufficientStock => badRequest
    | .notFound => notFound
    | .conflict => conflict
    | .storageFault => internalServerError

end Status

/-- A successful result and its status. -/
structure Outcome (α : Type) where
  status : Status
  data : α
deriving DecidableEq, Repr, Inhabited

namespace Outcome

variable {α : Type}

/-- The outcome of a request that changed nothing, or replaced what was there. -/
def ok (data : α) : Outcome α := ⟨.ok, data⟩

/-- The outcome of a request that made something new. -/
def created (data : α) : Outcome α := ⟨.created, data⟩

/-- An outcome as JSON. -/
def encode (data : α → Json) (o : Outcome α) : Json :=
  .object [Json.member "status" (Json.integer o.status.code), Json.member "data" (data o.data)]

end Outcome

/-- The machine-readable cause of a refusal. -/
inductive ErrorCode
  | invalidAmount
  | invalidQuantity
  | validationError
  | overflow
  | walletNotFound
  | productNotFound
  | walletAlreadyExists
  | serializationConflict
  | insufficientBalance
  | insufficientStock
  | deadlineExceeded
  | storageError
deriving DecidableEq, Repr

namespace ErrorCode

/-- The code of an error. A wallet that another request made first counts as existing. -/
def ofError : LedgerError → ErrorCode
  | .invalidAmount _ => .invalidAmount
  | .invalidQuantity _ => .invalidQuantity
  | .validation _ => .validationError
  | .overflow _ => .overflow
  | .walletNotFound _ => .walletNotFound
  | .productNotFound _ => .productNotFound
  | .walletAlreadyExists _ | .duplicateWallet _ => .walletAlreadyExists
  | .serializationConflict _ => .serializationConflict
  | .insufficientBalance _ _ => .insufficientBalance
  | .insufficientStock _ _ _ => .insufficientStock
  | .deadlineExceeded _ => .deadlineExceeded
  | .storage _ => .storageError

/-- The text of a code. -/
def text : ErrorCode → String
  | .invalidAmount => "INVALID_AMOUNT"
  | .invalidQuantity => "INVALID_QUANTITY"
  | .validationError => "VALIDATION_ERROR"
  | .overflow => "OVERFLOW"
  | .walletNotFound => "WALLET_NOT_FOUND"
  | .productNotFound => "PRODUCT_NOT_FOUND"
  | .walletAlreadyExists => "WALLET_ALREADY_EXISTS"
  | .serializationConflict => "SERIALIZATION_CONFLICT"
  | .insufficientBalance => "INSUFFICIENT_BALANCE"
  | .insufficientStock => "INSUFFICIENT_STOCK"
  | .deadlineExceeded => "DEADLINE_EXCEEDED"
  | .storageError => "STORAGE_ERROR"

end ErrorCode

namespace LedgerError

/-- The message that leaves the process. -/
def publicMessage : LedgerError → String
  | .storage _ => "storage operation failed"
  | e => e.message

/-- The body of a refusal: code, message and, when there is one, the wallet. -/
def body (e : LedgerError) : Json :=
  .object ([
    Json.member "code" (Json.text (ErrorCode.ofError e).text),
    Json.member "message" (Json.text e.publicMessage)] ++
    (e.wallet?.map fun w => Json.member "wallet" (Codec.encode w)).toList)

end LedgerError

end WalletLedger
