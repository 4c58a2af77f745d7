import WalletLedger.Json.Basic

/-!
# Records in JSON

A record is read from an object that has its fields as members in any order,
or from an array that lists them in order. Members of other names are passed
over; a field that is named twice makes the record unreadable, and so does a
key that names no text.
-/

namespace WalletLedger.Json

/-- The members of a name. -/
def named (name : String) (members : List (Option String × Json)) : List Json :=
  members.filterMap fun (key, value) => if key = some name then some value else none

/-- The value of a field: none when it is missing. Unreadable when it is named twice. -/
def field? (name : String) (members : List (Option String × Json)) : Option (Option Json) :=
  match named name members with
  | [] => some none
  | [value] => some (some value)
  | _ => none

/-- Whether every key names a text. -/
def hasReadableKeys (members : List (Option String × Json)) : Bool :=
  members.all fun (key, _) => key.isSome

/-- The values of the fields of a record, in the order of their names. -/
def fields? (names : List String) : Json → Option (List (Option Json))
  | .object members =>
    if hasReadableKeys members then names.mapM fun name => field? name members else none
  | .array elements =>
    if elements.length ≤ names.length then
      some (elements.map some ++ List.replicate (names.length - elements.length) none)
    else none
  | _ => none

end WalletLedger.Json
