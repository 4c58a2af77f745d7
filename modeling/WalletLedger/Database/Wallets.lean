import WalletLedger.Database.Basic

/-!
# Wallets in the database

Wallets are inserted and looked up, joined with the identity record of the
owner while that is live. Balances are written by units of work only.
-/

namespace WalletLedger.Database

open Query

/-- A wallet with the identity record of its owner. -/
def joined (users : List UserRow) (w : Wallet) : Wallet :=
  { w with user := (users.find? fun r => r.user.id == w.userId && !r.deleted).map (·.user) }

/-- The wallet of a user. -/
def walletByUser (user : String) : Query (Option Wallet) := do
  acquire
  let rows ← wallets
  let users ← users
  return (rows.find? (·.userId == user)).map (joined users)

/-- All wallets, oldest first. -/
def listWallets : Query (List Wallet) := do
  acquire
  let rows ← wallets
  let users ← users
  return (rows.map (joined users)).mergeSort fun v w => v.createdAt ≤ w.createdAt

/-- Inserts a wallet without money. The user may not have one. -/
def createWallet (user : String) : Query Wallet := naming user do
  acquire
  let rows ← wallets
  lockForWriting
  let id ← newId
  let now ← readClock
  let wallet : Wallet := ⟨id, user, Money.zero, now, now, none⟩
  if ← passGuard .walletInsert then
    passChecks walletChecks wallet
    passUnique (rows.any (·.userId == user)) "wallets.user_id"
    setWallets (rows ++ [wallet])
    return wallet
  else fail .rowNotFound

/-- The number of wallets. -/
def countWallets : Query Nat := do
  acquire
  return (← wallets).length

end WalletLedger.Database
