import WalletLedger.Config
import WalletLedger.Database.Disk
import WalletLedger.Database.Store
import WalletLedger.Service.Catalog
import WalletLedger.Service.Ledger
import WalletLedger.Service.Wallets

/-!
# Seeding a development database

A command line that puts users with wallets and a small catalog into an empty
database. A database that has users or products already is left as it is. The
arguments are read before anything is opened, so a command line that is
refused writes nothing.
-/

namespace WalletLedger.Seed

/-! ## The command line -/

/-- The users that are made, with their roles. -/
def users : List (String × Int64) :=
  [("admin", User.adminRole), ("alice", User.userRole), ("bob", User.userRole)]

/-- The products that are made. -/
def products : List NewProduct :=
  [⟨"Keyboard", "Mechanical keyboard, US layout", ⟨2090⟩, 23⟩,
   ⟨"Mouse", "Wireless optical mouse", ⟨1050⟩, 40⟩,
   ⟨"Wifi Adapter", "USB dual-band wifi adapter", ⟨1299⟩, 15⟩,
   ⟨"Computer Fan", "120mm case fan", ⟨899⟩, 60⟩]

/-- The password of every user. -/
def password : String := "12345"

/-- How passwords are hashed: what salt is drawn for a user, and what a password comes to with a
salt, unless it cannot be hashed. -/
structure Hasher where
  salt : String → String
  hash : (password salt : String) → Except String String

/-- The hash of the password for a user, or the text that says why there is none. -/
def Hasher.hashPassword (h : Hasher) (username : String) : Except String String :=
  (h.hash password (h.salt username)).mapError ("Failed to hash password: " ++ ·)

/-- Why a balance is refused. -/
inductive BalanceError
  | notANumber (raw : String)
  | notPositive (n : Int)
  | tooLarge (n : Int)
deriving DecidableEq, Repr

/-- The text that describes why a balance is refused. -/
def BalanceError.message : BalanceError → String
  | .notANumber raw => "--balance expects a whole number, got " ++ Text.quoted raw
  | .notPositive n => "--balance must be positive, got " ++ Text.ofInt n
  | .tooLarge n => "--balance " ++ Text.ofInt n ++ " is too large"

/-- An opening balance: a whole number of units above zero whose cents fit. -/
def readBalance (raw : String) : Except BalanceError Money :=
  match Text.readInt? Int64.minValue.toInt Int64.maxValue.toInt (Text.strip raw) with
  | none => .error (.notANumber raw)
  | some n =>
    if n ≤ 0 then .error (.notPositive n)
    else match fit? (n * 100) with
      | some cents => .ok ⟨cents⟩
      | none => .error (.tooLarge n)

/-- What a command line asks for. -/
inductive Command
  | help
  | seed (path : Option String) (balance : Option Money)
deriving DecidableEq, Repr

/-- The command of arguments, read from the left; an option without a value and
an argument that is no option say nothing, and of repeated options the last
one counts. -/
def Command.ofArgs (path : Option String) (balance : Option Money) :
    List String → Except BalanceError Command
  | [] => .ok (.seed path balance)
  | arg :: rest =>
    if arg = "--help" ∨ arg = "-h" then .ok .help
    else match rest with
      | value :: rest' =>
        if arg = "--db" ∨ arg = "-d" then ofArgs (some value) balance rest'
        else if arg = "--balance" ∨ arg = "-b" then
          match readBalance value with
          | .ok m => ofArgs path (some m) rest'
          | .error e => .error e
        else ofArgs path balance (value :: rest')
      | [] => .ok (.seed path balance)

/-- The opening balance when none is given. -/
def standardBalance : Money := ⟨100000⟩

/-! ## Output -/

/-- The text that explains the command line. -/
def usage : List String :=
  ["Wallet Ledger Seed Data Generator",
   "",
   "Usage: seed [OPTIONS]",
   "",
   "Options:",
   "  -d, --db <PATH>        Database file path (default: ./ledger_dev.db)",
   "  -b, --balance <N>      Opening balance per user wallet (default: 1000)",
   "  -h, --help             Show this help message"]

/-- The lines before the database is opened. -/
def header (path : String) : List String :=
  ["🌱 Wallet Ledger Seed Data Generator",
   "====================================",
   "Database: " ++ path,
   ""]

/-- The line of an error whose name and details are given. -/
def errorLine (name : String) (details : List String) : String :=
  "Error: " ++ name ++ "(" ++ ", ".intercalate details ++ ")"

/-- The line of a configuration error. -/
def configErrorLine : ConfigError → String
  | .invalidValue name => errorLine "InvalidValue" [Text.quoted name]
  | .missingRequired name => errorLine "MissingRequired" [Text.quoted name]

/-- The line of an error with named parts. -/
def recordLine (name : String) (parts : List (String × String)) : String :=
  "Error: " ++ name ++ " \x7b " ++
    ", ".intercalate (parts.map fun (key, value) => key ++ ": " ++ Text.quoted value) ++ " \x7d"

/-- The line of a database error. -/
def databaseErrorLine : DatabaseError → String
  | .notFound entity id => recordLine "NotFound" [("entity", entity), ("id", id)]
  | .uniqueViolation field value =>
    recordLine "UniqueViolation" [("field", field), ("value", value)]
  | .foreignKeyViolation text => recordLine "ForeignKeyViolation" [("message", text)]
  | .checkViolation text => recordLine "CheckViolation" [("message", text)]
  | .busy text => errorLine "Busy" [Text.quoted text]
  | .connectionFailed text => errorLine "ConnectionFailed" [Text.quoted text]
  | .migrationFailed text => errorLine "MigrationFailed" [Text.quoted text]
  | .queryFailed text => errorLine "QueryFailed" [Text.quoted text]
  | .poolExhausted => "Error: PoolExhausted"
  | .corruptRow table reason => recordLine "CorruptRow" [("table", table), ("reason", reason)]
  | .internal text => errorLine "Internal" [Text.quoted text]

/-- The line of a failure of a service. -/
def failureLine : Failure → String
  | .refused e => "Error: " ++ e.message
  | .aborted cause => "Error: " ++ cause.message

/-! ## Seeding -/

/-- The lines written so far, and the database. -/
structure Progress where
  lines : List String
  database : Database

/-- A part of the seeding: it may end with a line on the error output. -/
abbrev Script (α : Type) := ExceptT String (StateM Progress) α

namespace Script

variable {α : Type}

/-- Writes lines. -/
def say (lines : List String) : Script Unit :=
  modify fun p => { p with lines := p.lines ++ lines }

/-- Takes what was computed; why it was not is told on the error output. -/
def take (x : Except String α) : Script α :=
  match x with
  | .ok a => pure a
  | .error text => throw ("Error: " ++ Text.quoted text)

/-- Asks the database. -/
def ask (q : Database.Query α) : Script α := fun p =>
  match q p.database with
  | .ok (a, db) => (.ok a, { p with database := db })
  | .error e => (.error (databaseErrorLine e), p)

/-- Asks a service, and takes the data of its outcome. -/
def serve (x : Attempt (StateM Database) (Outcome α)) : Script α := fun p =>
  match x p.database with
  | (.ok o, db) => (.ok o.data, { p with database := db })
  | (.error e, db) => (.error (failureLine e), { p with database := db })

end Script

open Script

/-- The services on the database. -/
def services (limit : Duration) : Services (StateM Database) :=
  ⟨Database.store (some limit), Cache.absent, limit⟩

/-- Makes a user with a wallet; an ordinary user gets the opening balance. -/
def seedUser (s : Services (StateM Database)) (h : Hasher) (balance : Money) (username : String)
    (role : Int64) : Script Unit := do
  let hash ← take (h.hashPassword username)
  let user ← ask (Database.insertUser ⟨username, username ++ "@example.com", hash, role⟩)
  let wallet ← serve (s.initWallet user.id)
  if role = User.userRole then
    let _ ← serve (s.deposit user.id balance)
  say ["  ✓ " ++ username ++ " (wallet " ++ wallet.id ++ ")"]

/-- Makes a product. -/
def seedProduct (s : Services (StateM Database)) (p : NewProduct) : Script Unit := do
  let product ← serve (s.createProduct p)
  say ["  ✓ " ++ product.name ++ " @ " ++ product.price.text ++ " (" ++
    Text.ofInt product.stock.toInt ++ " in stock)"]

/-- Makes users and products. -/
def populate (s : Services (StateM Database)) (h : Hasher) (balance : Money) : Script Unit := do
  say ["", "Creating users and wallets..."]
  users.forM fun (username, role) => seedUser s h balance username role
  say ["", "Creating products..."]
  products.forM (seedProduct s)
  say ["", "✅ Seed complete!"]
  say ["   Users:    " ++ Text.ofNat (← ask Database.countUsers)]
  say ["   Wallets:  " ++ Text.ofNat (← ask Database.countWallets)]
  say ["   Products: " ++ Text.ofNat (← ask Database.countProducts)]
  say ["   Password: " ++ password]

/-- Populates the database unless it has users or products. -/
def seed (s : Services (StateM Database)) (h : Hasher) (balance : Money) : Script Unit := do
  say ["✓ Connected to database", "✓ Migrations applied"]
  let userCount ← ask Database.countUsers
  let productCount ← ask Database.countProducts
  if 0 < userCount ∨ 0 < productCount then
    say ["⚠ Database already has " ++ Text.ofNat userCount ++ " users and " ++
        Text.ofNat productCount ++ " products",
      "  Skipping seed to avoid duplicates.",
      "  Delete the database file to regenerate."]
  else populate s h balance

/-- What a run of the command leaves: its exit code and its lines on the two outputs. -/
structure Report where
  exit : Nat
  output : List String
  errors : List String
deriving DecidableEq, Repr

/-- A run that ends well. -/
def Report.success (output : List String) : Report := ⟨0, output, []⟩

/-- A run that ends with a line on the error output. -/
def Report.failure (output : List String) (error : String) : Report := ⟨1, output, [error]⟩

/-- Opens the database of some settings and seeds it. -/
def runOn (h : Hasher) (config : Config) (balance : Money) (disk : Database.Disk) :
    Report × Database.Disk :=
  let opening := header config.databasePath
  match disk.open? config.databaseSettings with
  | .error e => (.failure opening (databaseErrorLine e), disk)
  | .ok (file, db) =>
    let (result, p) := seed (services config.operationTimeout) h balance ⟨opening, db⟩
    let disk := disk.keep file p.database
    match result with
    | .ok () => (.success p.lines, disk)
    | .error line => (.failure p.lines line, disk)

/-- Runs a command line in a directory, with the variables that `lookup` finds. -/
def run (h : Hasher) (args : List String) (lookup : String → Option String)
    (disk : Database.Disk) : Report × Database.Disk :=
  match Config.load lookup with
  | .error e => (.failure [] (configErrorLine e), disk)
  | .ok config =>
    match Command.ofArgs none none args with
    | .error e => (.failure [] ("Error: " ++ Text.quoted e.message), disk)
    | .ok .help => (.success usage, disk)
    | .ok (.seed path balance) =>
      runOn h { config with databasePath := path.getD config.databasePath }
        (balance.getD standardBalance) disk

end WalletLedger.Seed
