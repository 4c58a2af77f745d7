import WalletLedger.Entry
import WalletLedger.LedgerError
import WalletLedger.Product
import WalletLedger.Supply
import WalletLedger.Wallet

/-!
# Books

The rows that the memory store holds, and what can be read off them. The rows
stand in the order in which they were made. Wallets and articles are kept in
hash maps, so a listing finds them in the order in which its map yields them
and sorts them: the wallets by their age, the products by nothing but their
names.
-/

namespace WalletLedger.Memory

/-- The rows of the memory store. -/
structure Books where
  wallets : List Wallet
  articles : List Article
  entries : List Entry
  users : List User
  supply : Supply
deriving Inhabited

namespace Books

/-- Books without rows. -/
def empty : Books := ⟨[], [], [], [], Supply.start⟩

/-- The wallet of a user. -/
def wallet? (b : Books) (user : String) : Option Wallet :=
  b.wallets.find? (·.userId == user)

/-- The identity record of a user. -/
def user? (b : Books) (id : String) : Option User :=
  b.users.find? (·.id == id)

/-- A wallet with the identity record of its owner. -/
def joined (b : Books) (w : Wallet) : Wallet :=
  { w with user := b.user? w.userId }

/-- The article of an identifier, whether it is live or not. -/
def article? (b : Books) (id : String) : Option Article :=
  b.articles.find? (·.product.id == id)

/-- The live product of an identifier. -/
def product? (b : Books) (id : String) : Option Product :=
  ((b.article? id).filter fun a => !a.deleted).map (·.product)

/-- All wallets, oldest first. -/
def listWallets (b : Books) : List Wallet :=
  ((b.supply.source.walletOrder b.wallets).map b.joined).mergeSort fun v w =>
    v.createdAt ≤ w.createdAt

/-- The live products, by name; those of one name as their map yields them. -/
def listProducts (b : Books) : List Product :=
  (((b.supply.source.articleOrder b.articles).filter fun a => !a.deleted).map
    (·.product)).mergeSort fun p q => p.name ≤ q.name

/-- All entries, newest first. -/
def listEntries (b : Books) : List Entry :=
  b.entries.reverse

/-- The entries of a user's wallet, newest first. -/
def history (b : Books) (user : String) : List Entry :=
  match b.wallet? user with
  | some w => b.listEntries.filter (·.walletId == w.id)
  | none => []

/-! ## Writing rows -/

/-- The books with the rows of a user's wallet changed. -/
def setWallet (b : Books) (user : String) (change : Wallet → Wallet) : Books :=
  { b with wallets := b.wallets.map fun w => if w.userId = user then change w else w }

/-- The books with the rows of an article changed. -/
def setArticle (b : Books) (id : String) (change : Article → Article) : Books :=
  { b with articles := b.articles.map fun a => if a.product.id = id then change a else a }

/-- The books with an identity record, in place of an earlier one of its identifier. -/
def putUser (b : Books) (u : User) : Books :=
  { b with users := b.users.filter (·.id ≠ u.id) ++ [u] }

end Books

end WalletLedger.Memory
