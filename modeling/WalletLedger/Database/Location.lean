import WalletLedger.Database.Error
import WalletLedger.Text.Query
import WalletLedger.Text.Search

/-!
# Where a database lies

The path of a database is written into a URL, and the URL is read again: a
scheme at its start is dropped, what follows the first question mark is a
query, and what stands before it is percent-decoded. So the file that is
opened has the name of the path only when the path has no question mark,
nothing in it stands for an octet, and it starts with no scheme. URIs of the
engine's own, which start with `file:`, are names of files here.
-/

namespace WalletLedger.Database

/-- Where a database lies. -/
inductive Location
  /-- In memory, or in a file without a name. -/
  | memory
  /-- In the file of a path. -/
  | file (path : String)
deriving DecidableEq, Repr, Inhabited

namespace Location

/-- The URL into which a path is written. -/
def url (path : String) : List Char :=
  "sqlite://".toList ++ path.toList ++ "?mode=rwc".toList

/-- The URL without the schemes at its start. -/
def dropScheme (url : List Char) : List Char :=
  Text.dropStarts "sqlite:".toList (Text.dropStarts "sqlite://".toList url)

/-- The values that a parameter may have; none when it may have any. -/
def knownValues? : String → Option (Option (List String))
  | "mode" => some (some ["ro", "rw", "rwc", "memory"])
  | "cache" => some (some ["private", "shared"])
  | "immutable" => some (some ["true", "1", "false", "0"])
  | "vfs" => some none
  | _ => none

/-- Goes on when a parameter is known and has one of its values. -/
def checkParameter : String × String → Except EngineError Unit
  | (key, value) =>
    match knownValues? key with
    | none => .error (.configuration
        ("unknown query parameter `" ++ key ++ "` while parsing connection URL"))
    | some none => .ok ()
    | some (some values) =>
      if values.contains value then .ok ()
      else .error (.configuration ("unknown value " ++ Text.quoted value ++ " for `" ++ key ++ "`"))

/-- The place that the part of a URL before its query names. -/
def ofDatabase (database : List Char) : Except EngineError Location :=
  if database = ":memory:".toList then .ok .memory
  else match Text.Percent.decode (String.ofList database) with
    | .ok path => .ok (.file path)
    | .error fault => .error (.configuration fault.message)

/-- The place that is opened. Of several file systems the last one counts, and
none is known by name; no name of a file holds a NUL. -/
def open? (place : Location) (parameters : List (String × String)) : Except EngineError Location :=
  match parameters.reverse.lookup "vfs" with
  | some name => .error (.refused (some "1") ("no such vfs: " ++ name))
  | none =>
    match place with
    | .memory => .ok .memory
    | .file path =>
      if path.isEmpty then .ok .memory
      else if path.toList.contains '\x00' then
        .error (.io "filename passed to SQLite must not contain nul bytes")
      else .ok (.file path)

/-- The place of a path. -/
def ofPath (path : String) : Except EngineError Location := do
  let (database, query) := Text.splitAtFirst '?' (dropScheme (url path))
  let parameters := Text.queryParameters query
  let place ← ofDatabase database
  parameters.forM checkParameter
  open? place parameters

end Location

end WalletLedger.Database
