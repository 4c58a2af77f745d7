import WalletLedger.Json.Fields
import WalletLedger.Json.Parser
import WalletLedger.Json.Printer
import WalletLedger.Money
import WalletLedger.Timestamp.Printer
import WalletLedger.Timestamp.Reader

/-!
# Values in JSON

A codec writes values of a type as JSON and reads them back. Reading is told
how many containers lie around the value, because values that are held apart
from their text may not be nested too deep. An integer is read only from an
integer literal in the 64-bit range.
-/

namespace WalletLedger

/-- How values of a type are written as JSON and read. -/
class Codec (α : Type) where
  encode : α → Json
  decodeWithin? : Nat → Json → Option α

namespace Codec

variable {α : Type} [Codec α]

/-- The value that a JSON value at the top of a text stands for. -/
def decode? (j : Json) : Option α :=
  decodeWithin? 0 j

/-- The JSON text of a value. -/
def write (a : α) : String :=
  (encode a).toText

/-- The value that a JSON text stands for. -/
def read? (s : String) : Option α :=
  (Json.parse? s).bind decode?

instance : Codec String where
  encode := Json.text
  decodeWithin? _
    | .string s => s
    | _ => none

instance : Codec Bool where
  encode := Json.bool
  decodeWithin? _
    | .bool b => some b
    | _ => none

instance : Codec Int64 where
  encode n := Json.integer n.toInt
  decodeWithin? _
    | .number (.integer n) => fit? n
    | _ => none

instance : Codec Money where
  encode m := encode m.cents
  decodeWithin? outer j := (decodeWithin? outer j).map Money.mk

instance : Codec Timestamp where
  encode t := Json.text t.text
  decodeWithin? _
    | .string (some s) => Timestamp.read? s
    | _ => none

instance : Codec (List α) where
  encode xs := .array (xs.map encode)
  decodeWithin? outer
    | .array xs => xs.mapM (decodeWithin? (outer + 1))
    | _ => none

/-- A field that has to be there. -/
def required (outer : Nat) (field : Option Json) : Option α :=
  field.bind (decodeWithin? (outer + 1))

/-- A field that may be missing. -/
def optional (outer : Nat) (field : Option Json) (default : α) : Option α :=
  match field with
  | some j => decodeWithin? (outer + 1) j
  | none => some default

end Codec

end WalletLedger
