import WalletLedger.Service.Basic

/-!
# The wallet service

A user gets one wallet, made once and looked up by its owner. Making a wallet
looks for one, makes it and reads it back in three calls of the store; when
another request comes in between, the store refuses the second wallet.
-/

namespace WalletLedger.Services

variable {m : Type → Type} [Monad m] (s : Services m)

/-- Makes the wallet of a user. -/
def initWallet (user : String) : Attempt m (Outcome Wallet) := do
  check (Validation.userId user)
  match ← s.store.walletByUser (some s.limit) user with
  | some existing => throw (.refused (.walletAlreadyExists existing))
  | none => do
    let _ ← s.store.createWallet user
    let found ← s.store.walletByUser (some s.limit) user
    let missing := .storage ("wallet for " ++ user ++ " missing right after creation")
    let wallet ← orRefuse missing found
    s.forget [Cache.walletsKey]
    return .created wallet

/-- The wallet of a user, or the refusal that there is none. -/
def findWallet (user : String) : Attempt m Wallet := do
  check (Validation.userId user)
  orRefuse (.walletNotFound user) (← s.store.walletByUser (some s.limit) user)

/-- The wallet of a user. -/
def getWallet (user : String) : Attempt m (Outcome Wallet) :=
  Outcome.ok <$> s.findWallet user

/-- The balance of a user. -/
def balance (user : String) : Attempt m (Outcome Money) :=
  (fun w => Outcome.ok w.balance) <$> s.findWallet user

/-- All wallets. -/
def listWallets : Attempt m (Outcome (List Wallet)) :=
  s.readThrough Cache.walletsKey (s.store.listWallets (some s.limit))

end WalletLedger.Services
