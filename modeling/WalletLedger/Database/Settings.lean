import WalletLedger.Database.Basic

/-!
# Database settings

Where a database lies and how its pool of connections behaves.
-/

namespace WalletLedger.Database

/-- The settings of a database. -/
structure Settings where
  /-- The path of the file, or `:memory:`. -/
  path : String
  /-- The greatest number of connections. -/
  maxConnections : Nat
  /-- The number of connections that are kept. -/
  minConnections : Nat
  /-- How long a query waits for a connection. -/
  connectTimeout : Duration
  /-- How long a connection is kept without use. -/
  idleTimeout : Duration
  /-- How long a writer waits for the write lock. -/
  busyTimeout : Duration
  /-- Whether migrations are applied when the database is opened. -/
  runMigrations : Bool
deriving DecidableEq, Repr, Inhabited

namespace Settings

/-- The settings of a database in a file. -/
def ofPath (path : String) : Settings where
  path := path
  maxConnections := 5
  minConnections := 1
  connectTimeout := .ofSeconds 30
  idleTimeout := .ofSeconds 600
  busyTimeout := .ofSeconds 5
  runMigrations := true

/-- The settings of a database in memory, which has a single connection. -/
def inMemory : Settings where
  path := ":memory:"
  maxConnections := 1
  minConnections := 1
  connectTimeout := .ofSeconds 5
  idleTimeout := .ofSeconds 60
  busyTimeout := .ofSeconds 1
  runMigrations := true

/-- The pool that the settings describe. -/
def pool (s : Settings) : Pool :=
  ⟨s.maxConnections, s.connectTimeout, true, false⟩

end Settings

end WalletLedger.Database
