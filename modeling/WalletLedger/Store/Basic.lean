import WalletLedger.Entry
import WalletLedger.LedgerError
import WalletLedger.Product
import WalletLedger.Wallet

/-!
# Stores

What the services ask of a store. The operations run in a monad `m`; one that
fails changes nothing. A read may be given a limit on how long it waits for
its turn. A store over one monad is a store over every monad that the first
one maps to (`Store.map`).
-/

namespace WalletLedger

/-- A computation that may be refused or aborted. -/
abbrev Attempt (m : Type → Type) (α : Type) := ExceptT Failure m α

/-- The operations of a store. -/
structure Store (m : Type → Type) where
  /-- The wallet of a user, joined with the identity record. -/
  walletByUser : Option Duration → String → Attempt m (Option Wallet)
  /-- A new wallet without money. The user may not have one. -/
  createWallet : String → Attempt m Wallet
  /-- All wallets, oldest first. -/
  listWallets : Option Duration → Attempt m (List Wallet)
  /-- The live products, by name and then by age. -/
  listProducts : Option Duration → Attempt m (List Product)
  /-- A live product. -/
  productById : Option Duration → String → Attempt m (Option Product)
  /-- A new product. -/
  insertProduct : NewProduct → Attempt m Product
  /-- Sets the fields of a live product. -/
  updateProduct : String → NewProduct → Attempt m Product
  /-- Takes a live product out of the catalog. -/
  deleteProduct : String → Attempt m Unit
  /-- Adds money to a wallet. -/
  deposit : String → Money → Attempt m Entry
  /-- Takes money out of a wallet. -/
  withdraw : String → Money → Attempt m Entry
  /-- Exchanges money of a wallet for units of a product. -/
  purchase : String → String → Int64 → Attempt m Entry
  /-- The entries of a user's wallet, newest first. -/
  history : Option Duration → String → Attempt m (List Entry)
  /-- All entries, newest first. -/
  listEntries : Option Duration → Attempt m (List Entry)

/-- A store whose operations are mapped to another monad. -/
def Store.map {m n : Type → Type} (f : ∀ α, m α → n α) (s : Store m) : Store n where
  walletByUser limit u := f _ (s.walletByUser limit u)
  createWallet u := f _ (s.createWallet u)
  listWallets limit := f _ (s.listWallets limit)
  listProducts limit := f _ (s.listProducts limit)
  productById limit p := f _ (s.productById limit p)
  insertProduct p := f _ (s.insertProduct p)
  updateProduct id p := f _ (s.updateProduct id p)
  deleteProduct id := f _ (s.deleteProduct id)
  deposit u a := f _ (s.deposit u a)
  withdraw u a := f _ (s.withdraw u a)
  purchase u p q := f _ (s.purchase u p q)
  history limit u := f _ (s.history limit u)
  listEntries limit := f _ (s.listEntries limit)

/-- The store on which no lookup finds a wallet. -/
def Store.blind {m : Type → Type} [Monad m] (s : Store m) : Store m :=
  { s with walletByUser := fun _ _ => pure none }

end WalletLedger
