import WalletLedger.Money
import WalletLedger.User

/-!
# Wallets

One wallet per owner, with the owner's identity record when it is known.
-/

namespace WalletLedger

/-- The balance of one owner. -/
structure Wallet where
  id : String
  userId : String
  balance : Money
  createdAt : Timestamp
  updatedAt : Timestamp
  user : Option User
deriving DecidableEq, Repr, Inhabited

/-- The wallet without the secret of the identity record. -/
def Wallet.withoutSecret (w : Wallet) : Wallet :=
  { w with user := w.user.map User.withoutSecret }

end WalletLedger
