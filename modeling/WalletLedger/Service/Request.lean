import WalletLedger.Service.Catalog
import WalletLedger.Service.Ledger
import WalletLedger.Service.Wallets
import WalletLedger.Store.Call

/-!
# Requests

The calls of the services as data, so that runs of any length can be spoken
of. `Services.serve` carries one out.
-/

namespace WalletLedger

/-- A call of the services. -/
inductive Request
  | initWallet (user : String)
  | getWallet (user : String)
  | balance (user : String)
  | listWallets
  | deposit (user : String) (amount : Money)
  | withdraw (user : String) (amount : Money)
  | purchase (user product : String) (quantity : Int64)
  | history (user : String)
  | listEntries
  | listProducts
  | getProduct (id : String)
  | createProduct (product : NewProduct)
  | updateProduct (id : String) (product : NewProduct)
  | deleteProduct (id : String)
deriving DecidableEq, Repr

/-- An outcome with its data as a reply. -/
def Outcome.map {α β : Type} (f : α → β) (o : Outcome α) : Outcome β :=
  ⟨o.status, f o.data⟩

namespace Services

variable {m : Type → Type} [Monad m] (s : Services m)

/-- Carries out a request. -/
def serve : Request → Attempt m (Outcome Reply)
  | .initWallet u => Outcome.map .wallet <$> s.initWallet u
  | .getWallet u => Outcome.map .wallet <$> s.getWallet u
  | .balance u => Outcome.map .money <$> s.balance u
  | .listWallets => Outcome.map .wallets <$> s.listWallets
  | .deposit u a => Outcome.map .entry <$> s.deposit u a
  | .withdraw u a => Outcome.map .entry <$> s.withdraw u a
  | .purchase u p q => Outcome.map .entry <$> s.purchase u p q
  | .history u => Outcome.map .entries <$> s.history u
  | .listEntries => Outcome.map .entries <$> s.listEntries
  | .listProducts => Outcome.map .products <$> s.listProducts
  | .getProduct id => Outcome.map .product <$> s.getProduct id
  | .createProduct p => Outcome.map .product <$> s.createProduct p
  | .updateProduct id p => Outcome.map .product <$> s.updateProduct id p
  | .deleteProduct id => Outcome.map (fun _ => .nothing) <$> s.deleteProduct id

end Services

end WalletLedger
