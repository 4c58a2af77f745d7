import WalletLedger.Database.Ledger
import WalletLedger.Database.Products
import WalletLedger.Database.Users
import WalletLedger.Database.Wallets

/-!
# The database as a store

What the queries and units of work answer, told in the errors of the ledger.
A read that is given a limit does not wait longer than that for a connection;
writes to the ledger are bounded by the deadline of the store.
-/

namespace WalletLedger.Database

/-- A query as an operation of the store. -/
def answer {α : Type} (q : Query α) : Attempt (StateM Database) α := fun db =>
  match q db with
  | .ok (a, db) => (.ok a, db)
  | .error e => (.error (.refused (.ofDatabase e)), db)

/-- A read, which waits for a connection as long as the limit and the pool allow. -/
def read {α : Type} (limit : Option Duration) (q : Query α) :
    Attempt (StateM Database) α := fun db =>
  match limit with
  | some d =>
    if db.pool.isOpen && db.pool.isExhausted && d.nanos < db.pool.patience.nanos then
      (.error (.refused (.ofDeadline d)), db)
    else answer q db
  | none => answer q db

/-- A read is answered as its query is, or it is late because no connection is free. -/
theorem read_eq_or_late {α : Type} (limit : Option Duration) (q : Query α) (db : Database) :
    read limit q db = answer q db ∨ db.pool.acquire ≠ .ok () ∧
      ∃ d, read limit q db = (.error (.refused (.ofDeadline d)), db) := by
  rcases limit with _ | d
  · exact .inl rfl
  · by_cases late : db.pool.isOpen && db.pool.isExhausted && d.nanos < db.pool.patience.nanos
    · refine .inr ⟨?_, d, if_pos late⟩
      simp only [Bool.and_eq_true] at late
      simp [Pool.acquire, late.1.1, late.1.2]
    · exact .inl (if_neg late)

/-- A wallet for a user. One that is there already was made by somebody else
in the meantime. -/
def makeWallet (user : String) : Attempt (StateM Database) Wallet := fun db =>
  match createWallet user db with
  | .ok (wallet, db) => (.ok wallet, db)
  | .error (.uniqueViolation _ _) => (.error (.refused (.duplicateWallet user)), db)
  | .error e => (.error (.refused (.ofDatabase e)), db)

/-- The operations of a database, one after another, with the course that the
writes to the ledger take. -/
def storeOn (course : Course) : Store (StateM Database) where
  walletByUser limit user := read limit (walletByUser user)
  createWallet := makeWallet
  listWallets limit := read limit listWallets
  listProducts limit := read limit listProducts
  productById limit id := read limit (productById id)
  insertProduct p := answer (insertProduct p)
  updateProduct id p := answer (updateProduct id p)
  deleteProduct id := answer (deleteProduct id)
  deposit user amount := (Work.deposit user amount).attempt course
  withdraw user amount := (Work.withdraw user amount).attempt course
  purchase user product quantity := (Work.purchase user product quantity).attempt course
  history limit user := read limit (history user)
  listEntries limit := read limit listEntries

/-- The operations of a database with a deadline for the writes to the ledger. -/
def store (deadline : Option Duration) : Store (StateM Database) :=
  storeOn (.ofDeadline deadline)

end WalletLedger.Database
