import WalletLedger.Database.Location
import WalletLedger.Database.Migration
import WalletLedger.Database.Settings
import WalletLedger.Text.Path

/-!
# Opening databases

The database files that can be reached from a working directory. The
directories that are there are this one and those above it; none is ever
made. A file is made when a database is opened that is not there.
-/

namespace WalletLedger.Database

/-- Database files under their paths, and the supply that they share. -/
structure Disk where
  /-- The working directory, as the names on the way from the root. -/
  directory : List String
  files : List (List String × Database)
  supply : Supply
deriving Inhabited

namespace Disk

/-- A working directory when there are no files. -/
def empty (directory : List String) : Disk := ⟨directory, [], Supply.start⟩

/-- The directory that is reached from another by names, all on the way being there. -/
def descend? (d : Disk) (here : List String) : List String → Option (List String)
  | [] => some here
  | name :: rest =>
    let next := if name = ".." then here.dropLast else here ++ [name]
    if next.isPrefixOf d.directory then d.descend? next rest else none

/-- The greatest number of octets in the name of a file, such that the name of
its journal is not too long. -/
def maxNameLength : Nat := 247

/-- The path from the root that a text names as a file. None when a directory
on the way is not there, when the text names a directory, and when the name
is too long. -/
def filePath? (d : Disk) (path : String) : Option (List String) := do
  let parts := Text.Path.ofString path
  let name ← parts.names.getLast?
  let directory ← d.descend? (if parts.isAbsolute then [] else d.directory) parts.names.dropLast
  let file := directory ++ [name]
  if Text.Path.endsInDirectory path || file.isPrefixOf d.directory ||
      maxNameLength < name.utf8ByteSize then none
  else some file

/-- The names of the files in the working directory. -/
def fileNames (d : Disk) : List String :=
  (d.files.filter fun f => f.1.dropLast == d.directory).filterMap fun f => f.1.getLast?

/-- The database of a file. -/
def find? (d : Disk) (file : List String) : Option Database :=
  d.files.lookup file

/-- The files after a database was used. -/
def keep (d : Disk) (file : Option (List String)) (db : Database) : Disk :=
  match file with
  | some path => { d with
      files := d.files.filter (fun f => f.1 ≠ path) ++ [(path, db)], supply := db.supply }
  | none => { d with supply := db.supply }

/-- The database of a place before its pool is opened, and its file. -/
def locate (d : Disk) : Location → Except EngineError (Option (List String) × Database)
  | .memory => .ok (none, blank d.supply default)
  | .file path =>
    match d.filePath? path with
    | some file => .ok (some file, (d.find? file).getD (blank d.supply default))
    | none => .error (.refused (some "14") "unable to open database file")

/-- Connects to the database of some settings. -/
def connect (d : Disk) (s : Settings) : Except EngineError (Option (List String) × Database) := do
  let (file, db) ← d.locate (← Location.ofPath s.path)
  if s.maxConnections = 0 then .error .poolTimedOut
  else .ok (file, { db with supply := d.supply, pool := s.pool })

/-- Opens the database of some settings, and brings its schema up to date when
they say so. -/
def open? (d : Disk) (s : Settings) : Except DatabaseError (Option (List String) × Database) :=
  match d.connect s with
  | .error e => .error (.connectionFailed e.message)
  | .ok (file, db) =>
    if s.runMigrations then
      match migrate db with
      | .ok (_, db) => .ok (file, db)
      | .error e => .error e
    else .ok (file, db)

end Disk

end WalletLedger.Database
