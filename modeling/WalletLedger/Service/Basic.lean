import WalletLedger.Cache
import WalletLedger.Outcome
import WalletLedger.Store.Basic

/-!
# Services

The services work on a store and a cache. Every read of the store is given
the limit of the services; writes are bounded inside the store.
-/

namespace WalletLedger

/-- What the services work on. -/
structure Services (m : Type → Type) where
  store : Store m
  cache : Cache m
  /-- How long a read of the store may wait. -/
  limit : Duration

namespace Services

variable {m : Type → Type} [Monad m]

/-- Goes on when a field rule holds. -/
def check (c : Validation.Check) : Attempt m Unit :=
  ExceptT.mk (pure (Failure.ofCheck c))

/-- Goes on when a rule on what moves holds. -/
def require (r : Except LedgerError Unit) : Attempt m Unit :=
  ExceptT.mk (pure (Failure.ofRule r))

/-- The value that a lookup has to find. -/
def orRefuse {α : Type} (e : LedgerError) : Option α → Attempt m α
  | some a => pure a
  | none => throw (.refused e)

/-- Takes away the entries under some keys. -/
def forget (s : Services m) (keys : List String) : m Unit :=
  keys.forM s.cache.delete

/-- Answers a read from the cache, or else from the store, and keeps what the
store answered. -/
def readThrough {α : Type} [Codec α] (s : Services m) (key : String) (read : Attempt m α) :
    Attempt m (Outcome α) := do
  match ← s.cache.find (α := α) key with
  | some a => return .ok a
  | none =>
    let a ← read
    s.cache.put key a
    return .ok a

end Services

end WalletLedger
