import WalletLedger.Database.Basic

/-!
# Migrations

The schema is brought up to date by one migration, which makes the tables
that are missing. What was applied is logged in a table of its own, so a
second run changes nothing.
-/

namespace WalletLedger.Database

open Query

/-- The versions of the migrations that are known. -/
def knownMigrations : List Nat := [1]

/-- Makes the tables that are missing. -/
def Tables.complete (t : Tables) : Tables where
  users := some (t.users.getD [])
  wallets := some (t.wallets.getD [])
  products := some (t.products.getD [])
  entries := some (t.entries.getD [])
  migrations := some knownMigrations

/-- Takes what is needed to apply the migrations that were not applied: a
connection, and the write lock only when there is one to apply. -/
def prepareMigration (db : Database) : Except EngineError Unit := do
  db.pool.acquire
  if db.tables.migrations ≠ some knownMigrations then db.pool.lockForWriting

/-- Brings the schema up to date. -/
def migrate : Query Unit := do
  let db ← get
  match db.prepareMigration with
  | .error e => throw (.ofMigration (.engine e))
  | .ok () =>
    if db.tables.migrations ≠ some knownMigrations then
      set { db with tables := db.tables.complete }

/-- The number of migrations that are known, and of those that were applied. -/
def migrationStatus : Query (Nat × Nat) := do
  acquire
  let applied ← rowsOf "_sqlx_migrations" (← get).tables.migrations
  return (knownMigrations.length, applied.length)

/-- Whether the database answers queries. -/
def isHealthy (db : Database) : Bool :=
  db.pool.isOpen && !db.pool.isExhausted

end WalletLedger.Database
