import WalletLedger.Database.Ledger
import WalletLedger.Database.Migration
import WalletLedger.Database.Products
import WalletLedger.Database.Users
import WalletLedger.Database.Wallets

/-!
# Repository calls

The queries on a database as data, so that runs of any length can be spoken of.
They are told in database errors and nothing is checked before them; units of
work on the ledger are calls of the store.
-/

namespace WalletLedger.Database

open Query

/-- A query of the repositories. -/
inductive RepositoryCall
  | createWallet (user : String)
  | walletByUser (user : String)
  | listWallets
  | countWallets
  | insertProduct (product : NewProduct)
  | updateProduct (id : String) (product : NewProduct)
  | deleteProduct (id : String)
  | productById (id : String)
  | listProducts
  | countProducts
  | history (user : String)
  | listEntries
  | countEntries
  | insertUser (user : NewUser)
  | userById (id : String)
  | userByName (username : String)
  | countUsers
  | migrate
  | migrationStatus
deriving DecidableEq, Repr

/-- The database after a query of the repositories. -/
def RepositoryCall.after (db : Database) : RepositoryCall → Database
  | .createWallet user => ((Database.createWallet user).attempt db).2
  | .walletByUser user => ((Database.walletByUser user).attempt db).2
  | .listWallets => (Database.listWallets.attempt db).2
  | .countWallets => (Database.countWallets.attempt db).2
  | .insertProduct p => ((Database.insertProduct p).attempt db).2
  | .updateProduct id p => ((Database.updateProduct id p).attempt db).2
  | .deleteProduct id => ((Database.deleteProduct id).attempt db).2
  | .productById id => ((Database.productById id).attempt db).2
  | .listProducts => (Database.listProducts.attempt db).2
  | .countProducts => (Database.countProducts.attempt db).2
  | .history user => ((Database.history user).attempt db).2
  | .listEntries => (Database.listEntries.attempt db).2
  | .countEntries => (Database.countEntries.attempt db).2
  | .insertUser u => ((Database.insertUser u).attempt db).2
  | .userById id => ((Database.userById id).attempt db).2
  | .userByName username => ((Database.userByName username).attempt db).2
  | .countUsers => (Database.countUsers.attempt db).2
  | .migrate => (Database.migrate.attempt db).2
  | .migrationStatus => (Database.migrationStatus.attempt db).2

end WalletLedger.Database
