import WalletLedger.Codec.Ledger
import WalletLedger.Service.Basic

/-!
# The ledger service

Deposits, withdrawals and purchases are checked, handed to the store as one
unit each, and make every cached view stale that shows what they changed.
-/

namespace WalletLedger.Services

variable {m : Type → Type} [Monad m] (s : Services m)

/-- The keys of the views that show what an entry changed. -/
def staleKeys (e : Entry) : List String :=
  [Cache.entriesKey, Cache.walletsKey] ++
    match e.kind.productId? with
    | some p => [Cache.productsKey, Cache.productKey p]
    | none => []

/-- The outcome of a committed entry. -/
def committed (e : Entry) : Attempt m (Outcome Entry) := do
  s.forget (staleKeys e)
  return .created e

/-- Adds money to the wallet of a user. -/
def deposit (user : String) (amount : Money) : Attempt m (Outcome Entry) := do
  check (Validation.userId user)
  require (Validation.amount amount)
  s.committed (← s.store.deposit user amount)

/-- Takes money out of the wallet of a user. -/
def withdraw (user : String) (amount : Money) : Attempt m (Outcome Entry) := do
  check (Validation.userId user)
  require (Validation.amount amount)
  s.committed (← s.store.withdraw user amount)

/-- Buys units of a product for a user. -/
def purchase (user product : String) (quantity : Int64) : Attempt m (Outcome Entry) := do
  check (Validation.userId user)
  require (Validation.quantity quantity)
  s.committed (← s.store.purchase user product quantity)

/-- The entries of a user, newest first. -/
def history (user : String) : Attempt m (Outcome (List Entry)) := do
  check (Validation.userId user)
  Outcome.ok <$> s.store.history (some s.limit) user

/-- All entries, newest first. -/
def listEntries : Attempt m (Outcome (List Entry)) :=
  s.readThrough Cache.entriesKey (s.store.listEntries (some s.limit))

end WalletLedger.Services
