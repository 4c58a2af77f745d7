import WalletLedger.Json.Double
import WalletLedger.Text.Hexadecimal

/-!
# Writing JSON

The compact form: no space between tokens, members in their order. Quotes,
backslashes and control characters are escaped, everything else stands for
itself.
-/

namespace WalletLedger.Json

/-- The written form of one character of a string. -/
def escape (c : Char) : List Char :=
  if c = '"' ∨ c = '\\' then ['\\', c]
  else if c = '\x08' then ['\\', 'b']
  else if c = '\t' then ['\\', 't']
  else if c = '\n' then ['\\', 'n']
  else if c = '\x0c' then ['\\', 'f']
  else if c = '\r' then ['\\', 'r']
  else if c.toNat < 0x20 then '\\' :: 'u' :: Text.hexDigits 4 c.toNat
  else [c]

/-- The written form of a string. One that names no text is written as empty. -/
def renderString (s : Option String) : List Char :=
  '"' :: (s.getD "").toList.flatMap escape ++ ['"']

mutual

/-- The compact text of a value. -/
def render : Json → List Char
  | .null => ['n', 'u', 'l', 'l']
  | .bool true => ['t', 'r', 'u', 'e']
  | .bool false => ['f', 'a', 'l', 's', 'e']
  | .number n => n.text
  | .string s => renderString s
  | .array [] => ['[', ']']
  | .array (x :: xs) => '[' :: render x ++ renderElements xs
  | .object [] => ['\x7b', '\x7d']
  | .object ((key, x) :: ms) => '\x7b' :: renderString key ++ ':' :: render x ++ renderMembers ms

/-- The elements after the first, and the closing bracket. -/
def renderElements : List Json → List Char
  | [] => [']']
  | x :: xs => ',' :: render x ++ renderElements xs

/-- The members after the first, and the closing brace. -/
def renderMembers : List (Option String × Json) → List Char
  | [] => ['\x7d']
  | (key, x) :: ms => ',' :: renderString key ++ ':' :: render x ++ renderMembers ms

end

/-- The compact text of a value. -/
def toText (x : Json) : String :=
  String.ofList x.render

end WalletLedger.Json
