import WalletLedger.Store.Basic

/-!
# Store calls

The operations of a store as data, so that runs of any length can be spoken
of. `Store.perform` carries one out.
-/

namespace WalletLedger

/-- A call of a store. -/
inductive StoreCall
  | walletByUser (user : String)
  | createWallet (user : String)
  | listWallets
  | listProducts
  | productById (id : String)
  | insertProduct (product : NewProduct)
  | updateProduct (id : String) (product : NewProduct)
  | deleteProduct (id : String)
  | deposit (user : String) (amount : Money)
  | withdraw (user : String) (amount : Money)
  | purchase (user product : String) (quantity : Int64)
  | history (user : String)
  | listEntries
deriving DecidableEq, Repr

/-- What a call answers. -/
inductive Reply
  | nothing
  | money (m : Money)
  | wallet (w : Wallet)
  | wallets (ws : List Wallet)
  | product (p : Product)
  | products (ps : List Product)
  | entry (e : Entry)
  | entries (es : List Entry)
deriving DecidableEq, Repr, Inhabited

/-- The reply that may lack its value. -/
def Reply.ofOption {α : Type} (f : α → Reply) : Option α → Reply
  | some a => f a
  | none => .nothing

namespace Store

variable {m : Type → Type} [Monad m]

/-- Carries out a call; reads wait as long as a limit allows. -/
def perform (s : Store m) (limit : Option Duration) : StoreCall → Attempt m Reply
  | .walletByUser u => Reply.ofOption .wallet <$> s.walletByUser limit u
  | .createWallet u => .wallet <$> s.createWallet u
  | .listWallets => .wallets <$> s.listWallets limit
  | .listProducts => .products <$> s.listProducts limit
  | .productById id => Reply.ofOption .product <$> s.productById limit id
  | .insertProduct p => .product <$> s.insertProduct p
  | .updateProduct id p => .product <$> s.updateProduct id p
  | .deleteProduct id => (fun _ => .nothing) <$> s.deleteProduct id
  | .deposit u a => .entry <$> s.deposit u a
  | .withdraw u a => .entry <$> s.withdraw u a
  | .purchase u p q => .entry <$> s.purchase u p q
  | .history u => .entries <$> s.history limit u
  | .listEntries => .entries <$> s.listEntries limit

end Store

end WalletLedger
