import WalletLedger.Database.Schema
import WalletLedger.Supply

/-!
# The database

A database is its tables with a pool of connections, and the guards that
somebody beside the ledger may have put on it. A query runs on the database
and fails without a trace. It needs a connection; what it writes needs the
write lock as well, which another connection may hold.
-/

namespace WalletLedger

namespace Database

/-- The pool of connections. -/
structure Pool where
  /-- The greatest number of connections. -/
  size : Nat
  /-- How long a query waits for a connection. -/
  patience : Duration
  isOpen : Bool
  /-- Whether one connection has been taken away, and holds the write lock. -/
  isLocked : Bool
deriving DecidableEq, Repr, Inhabited

namespace Pool

/-- Whether every connection is taken. -/
def isExhausted (p : Pool) : Bool :=
  p.size ≤ if p.isLocked then 1 else 0

/-- Takes a connection. -/
def acquire (p : Pool) : Except EngineError Unit :=
  if !p.isOpen then .error .poolClosed
  else if p.isExhausted then .error .poolTimedOut
  else .ok ()

/-- Takes the write lock. -/
def lockForWriting (p : Pool) : Except EngineError Unit :=
  if p.isLocked then .error (.refused (some "5") "database is locked") else .ok ()

end Pool

/-- What a guard watches. -/
inductive Watch
  | balanceUpdate
  | stockUpdate
  | entryInsert
  | walletInsert
  | productInsert
  | productDelete
deriving DecidableEq, Repr

/-- The word for what is watched. -/
def Watch.name : Watch → String
  | .balanceUpdate => "balance"
  | .stockUpdate => "stock"
  | .entryInsert => "entry"
  | .walletInsert => "wallet"
  | .productInsert => "product"
  | .productDelete => "delete"

/-- A guard acts before each row that a statement would write: it refuses the
statement, or passes over the row in silence. -/
structure Guard where
  watch : Watch
  refuses : Bool
deriving DecidableEq, Repr

end Database

/-- A relational database. -/
structure Database where
  tables : Database.Tables
  supply : Supply
  /-- The guards, newest first. -/
  guards : List Database.Guard
  /-- Whether the checks of the schema are enforced. -/
  enforced : Bool
  pool : Database.Pool
deriving Inhabited

namespace Database

/-- A database without tables. -/
def blank (supply : Supply) (pool : Pool) : Database :=
  ⟨Tables.none, supply, [], true, pool⟩

/-- A query: it answers on a changed database, or fails. -/
abbrev Query (α : Type) := StateT Database (Except DatabaseError) α

namespace Query

variable {α : Type}

/-- The answer of a query and the database after it; a query that fails
leaves the database as it was. -/
def attempt (q : Query α) : StateM Database (Except DatabaseError α) := fun db =>
  match q db with
  | .ok (a, db) => (.ok a, db)
  | .error e => (.error e, db)

/-- Fails with an engine error. -/
def fail (e : EngineError) : Query α :=
  throw (.ofEngine e)

/-- Fails because the engine refuses the statement. -/
def refuse (code text : String) : Query α :=
  fail (.refused (some code) text)

/-- Goes on when the engine does. -/
def ofEngine : Except EngineError α → Query α
  | .ok a => pure a
  | .error e => fail e

/-- Takes a connection for the query. -/
def acquire : Query Unit := do
  ofEngine (← get).pool.acquire

/-- Goes on when no other connection holds the write lock. -/
def lockForWriting : Query Unit := do
  ofEngine (← get).pool.lockForWriting

/-- Takes a new identifier. -/
def newId : Query String :=
  modifyGet fun db => (db.supply.newId.1, { db with supply := db.supply.newId.2 })

/-- Looks at the clock. -/
def readClock : Query Timestamp :=
  modifyGet fun db => (db.supply.readClock.1, { db with supply := db.supply.readClock.2 })

/-- Lets the newest guard of a kind act before a row is written. The answer
is whether the row is written. -/
def passGuard (watch : Watch) : Query Bool := do
  match (← get).guards.find? (·.watch == watch) with
  | some g =>
    if g.refuses then refuse "1811" ("simulated " ++ watch.name ++ " fault") else return false
  | none => return true

/-- Goes on when a row passes the checks of its table. -/
def passChecks {Row : Type} (checks : List (Check Row)) (row : Row) : Query Unit := do
  if (← get).enforced then
    match firstBroken? checks row with
    | some text => refuse "275" ("CHECK constraint failed: " ++ text)
    | none => pure ()

/-- Goes on when a row does not repeat a value that has to be unique. -/
def passUnique (taken : Bool) (column : String) : Query Unit := do
  if taken then refuse "2067" ("UNIQUE constraint failed: " ++ column)

/-- Goes on when the rows that others refer to are there. -/
def passReferences (hold : Bool) : Query Unit := do
  if !hold then refuse "787" "FOREIGN KEY constraint failed"

/-- The rows of a table that has to be there. -/
def rowsOf {Row : Type} (name : String) (rows : Option (List Row)) : Query (List Row) :=
  match rows with
  | some rows => pure rows
  | none => refuse "1" ("no such table: " ++ name)

/-- The rows of the table of users. -/
def users : Query (List UserRow) := do rowsOf "users" (← get).tables.users

/-- The rows of the table of wallets. -/
def wallets : Query (List Wallet) := do rowsOf "wallets" (← get).tables.wallets

/-- The rows of the table of products. -/
def products : Query (List Article) := do rowsOf "products" (← get).tables.products

/-- The rows of the ledger. -/
def entries : Query (List EntryRow) := do rowsOf "transactions" (← get).tables.entries

/-- Replaces the rows of the table of users. -/
def setUsers (rows : List UserRow) : Query Unit :=
  modify fun db => { db with tables := { db.tables with users := some rows } }

/-- Replaces the rows of the table of wallets. -/
def setWallets (rows : List Wallet) : Query Unit :=
  modify fun db => { db with tables := { db.tables with wallets := some rows } }

/-- Replaces the rows of the table of products. -/
def setProducts (rows : List Article) : Query Unit :=
  modify fun db => { db with tables := { db.tables with products := some rows } }

/-- Replaces the rows of the ledger. -/
def setEntries (rows : List EntryRow) : Query Unit :=
  modify fun db => { db with tables := { db.tables with entries := some rows } }

/-- Changes the row that a statement selects: the guard acts before it is
written, and the changed row has to pass the checks. The answer is the
changed row, if one was written, and the rows of the table after it. -/
def updateRow {Row : Type} (watch : Option Watch) (checks : List (Check Row))
    (selects : Row → Bool) (change : Row → Row) (rows : List Row) :
    Query (Option Row × List Row) := do
  match rows.find? selects with
  | none => return (none, rows)
  | some row =>
    let written ← match watch with
      | some w => passGuard w
      | none => pure true
    if written then
      passChecks checks (change row)
      return (some (change row), rows.map fun r => if selects r then change r else r)
    else return (none, rows)

/-- A query whose collisions are reported under the value given. -/
def naming (value : String) (q : Query α) : Query α := fun db =>
  match q db with
  | .error (.uniqueViolation field _) => .error (.uniqueViolation field value)
  | r => r

end Query

end Database

end WalletLedger
