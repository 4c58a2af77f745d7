import WalletLedger.Duration
import WalletLedger.Validation
import WalletLedger.Wallet

/-!
# Ledger errors

Every cause for which the ledger refuses a request, its text and its coarse
category. Only a conflict between writers and an exceeded deadline are worth
a retry without changes.
-/

namespace WalletLedger

/-- The coarse category of an error. -/
inductive ErrorKind
  | invalidInput
  | notFound
  | conflict
  | insufficientBalance
  | insufficientStock
  | storageFault
deriving DecidableEq, Repr

/-- Why the ledger refuses a request. -/
inductive LedgerError
  /-- The amount to move is not above zero. -/
  | invalidAmount (amount : Money)
  /-- The quantity to purchase is not above zero. -/
  | invalidQuantity (quantity : Int64)
  /-- A field breaks its rule. -/
  | validation (error : FieldError)
  /-- The result of an operation does not fit. -/
  | overflow (operation : String)
  /-- The user has no wallet. -/
  | walletNotFound (userId : String)
  /-- There is no such product in the catalog. -/
  | productNotFound (productId : String)
  /-- The user has a wallet already. -/
  | walletAlreadyExists (wallet : Wallet)
  /-- Another request made the user's wallet first. -/
  | duplicateWallet (userId : String)
  /-- Another writer was in the way. -/
  | serializationConflict (detail : String)
  /-- The balance is below the amount to move. -/
  | insufficientBalance (available requested : Money)
  /-- The stock is below the quantity to purchase. -/
  | insufficientStock (productId : String) (available requested : Int64)
  /-- The deadline, in milliseconds, passed before anything was written. -/
  | deadlineExceeded (millis : Nat)
  /-- The store failed. -/
  | storage (detail : String)
deriving DecidableEq, Repr, Inhabited

namespace LedgerError

/-- The error of a deadline that passed. -/
def ofDeadline (limit : Duration) : LedgerError :=
  .deadlineExceeded limit.millisCapped

/-- The text that describes an error. -/
def message : LedgerError → String
  | .invalidAmount a => "amount must be greater than zero (got " ++ a.text ++ ")"
  | .invalidQuantity q => "quantity must be greater than zero (got " ++ Text.ofInt q.toInt ++ ")"
  | .validation e => "validation error: " ++ e.message
  | .overflow operation => operation ++ " overflows the supported money range"
  | .walletNotFound u => "wallet not found for user " ++ u
  | .productNotFound p => "product not found: " ++ p
  | .walletAlreadyExists w => "wallet already exists for user " ++ w.userId
  | .duplicateWallet u => "wallet for user " ++ u ++ " was created concurrently"
  | .serializationConflict detail => "serialization conflict: " ++ detail
  | .insufficientBalance available requested =>
    "insufficient balance: available " ++ available.text ++ ", requested " ++ requested.text
  | .insufficientStock p available requested =>
    "insufficient stock for product " ++ p ++ ": available " ++ Text.ofInt available.toInt ++
      ", requested " ++ Text.ofInt requested.toInt
  | .deadlineExceeded millis => "operation exceeded its deadline of " ++ Text.ofNat millis ++ " ms"
  | .storage detail => "storage fault: " ++ detail

/-- The category of an error. -/
def kind : LedgerError → ErrorKind
  | .invalidAmount _ | .invalidQuantity _ | .validation _ | .overflow _ => .invalidInput
  | .walletNotFound _ | .productNotFound _ => .notFound
  | .walletAlreadyExists _ | .duplicateWallet _ | .serializationConflict _ => .conflict
  | .insufficientBalance _ _ => .insufficientBalance
  | .insufficientStock _ _ _ => .insufficientStock
  | .deadlineExceeded _ | .storage _ => .storageFault

/-- Whether the same request may succeed when it is repeated. -/
def isRetryable : LedgerError → Bool
  | .serializationConflict _ | .deadlineExceeded _ => true
  | _ => false

/-- The wallet that an error carries. -/
def wallet? : LedgerError → Option Wallet
  | .walletAlreadyExists w => some w
  | _ => none

end LedgerError

namespace Validation

/-- An amount to move is above zero. -/
def amount (m : Money) : Except LedgerError Unit :=
  if m.isPositive then .ok () else .error (.invalidAmount m)

/-- A quantity to purchase is above zero. -/
def quantity (q : Int64) : Except LedgerError Unit :=
  if 0 < q.toInt then .ok () else .error (.invalidQuantity q)

end Validation

/-- How a computation of the ledger ends without an answer: the request is
refused, or arithmetic stops it. -/
inductive Failure
  | refused (error : LedgerError)
  | aborted (cause : Abort)
deriving DecidableEq, Repr, Inhabited

namespace Failure

/-- The answer of an arithmetic step. -/
def ofArithmetic {α : Type} : Except Abort α → Except Failure α
  | .ok a => .ok a
  | .error cause => .error (.aborted cause)

/-- The outcome of a field rule. -/
def ofCheck : Validation.Check → Except Failure Unit
  | .ok () => .ok ()
  | .error e => .error (.refused (.validation e))

/-- The outcome of a rule on what moves. -/
def ofRule : Except LedgerError Unit → Except Failure Unit
  | .ok () => .ok ()
  | .error e => .error (.refused e)

end Failure

end WalletLedger
