import WalletLedger.LedgerError
import WalletLedger.Text.Quoted
import WalletLedger.Text.Search

/-!
# Database errors

What a relational engine reports, and what the ledger makes of it in two
steps: a database error, and then a ledger error. Contention for the write
lock becomes a conflict that is worth a retry; a missing wallet or product is
named; all else is a storage fault.
-/

namespace WalletLedger

/-- What a database engine or its connection pool reports. -/
inductive EngineError
  /-- A statement that has to yield a row yielded none. -/
  | rowNotFound
  /-- The engine refused a statement, with a result code and a text. -/
  | refused (code : Option String) (text : String)
  /-- No connection became free in time. -/
  | poolTimedOut
  /-- The pool was closed. -/
  | poolClosed
  /-- The thread that drives a connection is gone. -/
  | workerCrashed
  /-- A row has no column of a name. -/
  | columnNotFound (name : String)
  /-- The value in a column is not of the type wanted. -/
  | columnDecode (column reason : String)
  /-- The data exchanged with the engine is malformed. -/
  | protocol (detail : String)
  /-- Reading or writing failed. -/
  | io (detail : String)
  /-- The place of the database is malformed. -/
  | configuration (detail : String)
  /-- The schema could not be brought up to date. -/
  | migration (detail : String)
deriving DecidableEq, Repr, Inhabited

/-- The text that describes an engine error. -/
def EngineError.message : EngineError → String
  | .rowNotFound => "no rows returned by a query that expected to return at least one row"
  | .refused (some code) text => "error returned from database: (code: " ++ code ++ ") " ++ text
  | .refused none text => "error returned from database: " ++ text
  | .poolTimedOut => "pool timed out while waiting for an open connection"
  | .poolClosed => "attempted to acquire a connection on a closed pool"
  | .workerCrashed => "attempted to communicate with a crashed background worker"
  | .columnNotFound name => "no column found for name: " ++ name
  | .columnDecode column reason =>
    "error occurred while decoding column " ++ Text.quoted column ++ ": " ++ reason
  | .protocol detail => "encountered unexpected or invalid data: " ++ detail
  | .io detail => "error communicating with database: " ++ detail
  | .configuration detail => "error with configuration: " ++ detail
  | .migration detail => detail

/-- Why the schema could not be brought up to date. -/
inductive MigrationError
  /-- An applied migration is not known. -/
  | versionMissing (version : Int)
  /-- An applied migration has another text. -/
  | versionMismatch (version : Int)
  /-- A migration was applied in part. -/
  | dirty (version : Int)
  /-- The engine failed. -/
  | engine (error : EngineError)
deriving DecidableEq, Repr, Inhabited

/-- The text that describes a migration error. -/
def MigrationError.message : MigrationError → String
  | .versionMissing v => "migration " ++ Text.ofInt v ++
      " was previously applied but is missing in the resolved migrations"
  | .versionMismatch v => "migration " ++ Text.ofInt v ++
      " was previously applied but has been modified"
  | .dirty v => "migration " ++ Text.ofInt v ++
      " is partially applied; fix and remove row from `_sqlx_migrations` table"
  | .engine e => "while executing migrations: " ++ e.message

/-- A failure of the database. -/
inductive DatabaseError
  | notFound (entity id : String)
  | uniqueViolation (field value : String)
  | foreignKeyViolation (text : String)
  | checkViolation (text : String)
  /-- Another writer held the lock for too long. -/
  | busy (text : String)
  | connectionFailed (text : String)
  | migrationFailed (text : String)
  | queryFailed (text : String)
  /-- Every connection was in use. -/
  | poolExhausted
  /-- A stored row is no value of the domain. -/
  | corruptRow (table reason : String)
  | internal (text : String)
deriving DecidableEq, Repr, Inhabited

/-- The text that describes a database error. -/
def DatabaseError.message : DatabaseError → String
  | .notFound entity id => entity ++ " not found: " ++ id
  | .uniqueViolation field value => "Duplicate " ++ field ++ ": '" ++ value ++ "' already exists"
  | .foreignKeyViolation text => "Foreign key violation: " ++ text
  | .checkViolation text => "Check constraint violation: " ++ text
  | .busy text => "Database busy: " ++ text
  | .connectionFailed text => "Connection failed: " ++ text
  | .migrationFailed text => "Migration failed: " ++ text
  | .queryFailed text => "Query failed: " ++ text
  | .poolExhausted => "Connection pool exhausted"
  | .corruptRow table reason => "Corrupt row in " ++ table ++ ": " ++ reason
  | .internal text => "Internal database error: " ++ text

/-! ## Classification -/

/-- Whether the low byte of a result code, when the code is a 32-bit number,
means that the database or a table is locked. -/
def isLockCode (code : Option String) : Bool :=
  match code.bind (Text.readInt? Int32.minValue.toInt Int32.maxValue.toInt) with
  | some n => n % 256 == 5 || n % 256 == 6
  | none => false

/-- Whether a refused statement met the lock of another connection. -/
def isLockContention (code : Option String) (text : String) : Bool :=
  isLockCode code || Text.contains "database is locked" text ||
    Text.contains "database table is locked" text

/-- The database error of a refused statement. Contention goes before the
constraints; the column of a unique constraint is read off the text. -/
def DatabaseError.ofRefusal (code : Option String) (text : String) : DatabaseError :=
  if isLockContention code text then .busy text
  else if Text.contains "UNIQUE constraint failed" text then
    .uniqueViolation ((Text.between? "UNIQUE constraint failed: " text).getD "unknown") "unknown"
  else if Text.contains "FOREIGN KEY constraint failed" text then .foreignKeyViolation text
  else if Text.contains "CHECK constraint failed" text then .checkViolation text
  else .queryFailed text

/-- The database error that an engine error is. -/
def DatabaseError.ofEngine : EngineError → DatabaseError
  | .rowNotFound => .notFound "Record" "unknown"
  | .refused code text => .ofRefusal code text
  | .poolTimedOut => .poolExhausted
  | .poolClosed => .connectionFailed "Pool is closed"
  | .io detail => .connectionFailed detail
  | e => .internal e.message

/-- The database error that a migration error is. -/
def DatabaseError.ofMigration (e : MigrationError) : DatabaseError :=
  .migrationFailed e.message

/-- The ledger error that a database error is. -/
def LedgerError.ofDatabase : DatabaseError → LedgerError
  | .busy text => .serializationConflict text
  | .notFound entity id =>
    if entity = "Wallet" then .walletNotFound id
    else if entity = "Product" then .productNotFound id
    else .storage (DatabaseError.notFound entity id).message
  | e => .storage e.message

end WalletLedger
