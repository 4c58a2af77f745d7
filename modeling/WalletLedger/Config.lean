import WalletLedger.Database.Settings
import WalletLedger.Text.Blank
import WalletLedger.Text.Path

/-!
# Configuration

The settings of the ledger, read from variables with defaults. The path is
looked at first, then the numbers in their order; only when all of them can
be read are the numbers that may not be zero looked at.
-/

namespace WalletLedger

/-- The settings of the ledger. -/
structure Config where
  databasePath : String
  maxConnections : Nat
  busyTimeout : Duration
  operationTimeout : Duration
  redisUrl : Option String
  cacheTtl : Duration
deriving DecidableEq, Repr, Inhabited

/-- Why the settings cannot be read. -/
inductive ConfigError
  | invalidValue (name : String)
  | missingRequired (name : String)
deriving DecidableEq, Repr

/-- The text that describes a configuration error. -/
def ConfigError.message : ConfigError → String
  | .invalidValue name => "Invalid value for " ++ name
  | .missingRequired name => "Missing required configuration: " ++ name

namespace Config

/-- The settings when no variable is set. -/
def standard : Config where
  databasePath := "./ledger_dev.db"
  maxConnections := 5
  busyTimeout := .ofMillis 5000
  operationTimeout := .ofMillis 10000
  redisUrl := none
  cacheTtl := .ofSeconds 300

/-- A number below a bound, read from a variable. -/
def number (lookup : String → Option String) (bound : Nat) (name default : String) :
    Except ConfigError Nat :=
  match Text.readNat? bound ((lookup name).getD default) with
  | some n => .ok n
  | none => .error (.invalidValue name)

/-- The settings that variables give. -/
def load (lookup : String → Option String) : Except ConfigError Config := do
  let databasePath := (lookup "LEDGER_DB_PATH").getD "./ledger_dev.db"
  if Text.isBlankText databasePath then .error (.missingRequired "LEDGER_DB_PATH")
  let maxConnections ← number lookup UInt32.size "LEDGER_DB_MAX_CONNECTIONS" "5"
  let busy ← number lookup UInt64.size "LEDGER_BUSY_TIMEOUT_MS" "5000"
  let operation ← number lookup UInt64.size "LEDGER_OPERATION_TIMEOUT_MS" "10000"
  let ttl ← number lookup UInt64.size "LEDGER_CACHE_TTL_SECS" "300"
  if maxConnections = 0 then .error (.invalidValue "LEDGER_DB_MAX_CONNECTIONS")
  if operation = 0 then .error (.invalidValue "LEDGER_OPERATION_TIMEOUT_MS")
  .ok {
    databasePath, maxConnections
    busyTimeout := .ofMillis busy
    operationTimeout := .ofMillis operation
    redisUrl := (lookup "REDIS_URL").filter fun url => !Text.isBlankText url
    cacheTtl := .ofSeconds ttl }

/-- Whether two settings are the same; paths are the same when they say the same. -/
def isSame (a b : Config) : Bool :=
  Text.Path.ofString a.databasePath == Text.Path.ofString b.databasePath &&
    { a with databasePath := "" } == { b with databasePath := "" }

/-- The settings of the database. -/
def databaseSettings (c : Config) : Database.Settings :=
  { Database.Settings.ofPath c.databasePath with
    maxConnections := c.maxConnections, busyTimeout := c.busyTimeout }

end Config

end WalletLedger
