import WalletLedger.Json.Basic
import WalletLedger.Text.Hexadecimal

/-!
# Reading JSON

The grammar of JSON, with nothing left out and nothing added. An escaped
surrogate has to be followed at once by the escape of its partner; otherwise
the string is read, but names no text. `parse?` wants one value between
blanks.
-/

namespace WalletLedger.Json

/-- Whether a character may stand between two tokens. -/
def isSpace (c : Char) : Bool :=
  c == ' ' || c == '\n' || c == '\t' || c == '\r'

/-- The characters from the first that is not a space. -/
def skipSpace (cs : List Char) : List Char :=
  cs.dropWhile isSpace

/-! ## Strings -/

/-- A piece of a string: a character, or half of a surrogate pair, counted
from the first of its kind. -/
inductive Piece
  | char (c : Char)
  | high (n : Nat)
  | low (n : Nat)

/-- The piece that an escaped code unit stands for. -/
def Piece.ofUnit (n : Nat) : Piece :=
  if 0xd800 ≤ n ∧ n < 0xdc00 then .high (n - 0xd800)
  else if 0xdc00 ≤ n ∧ n < 0xe000 then .low (n - 0xdc00)
  else .char (Char.ofNat n)

/-- The character that a letter after a backslash stands for. -/
def unescape? : Char → Option Char
  | '"' => some '"'
  | '\\' => some '\\'
  | '/' => some '/'
  | 'b' => some '\x08'
  | 'f' => some '\x0c'
  | 'n' => some '\n'
  | 'r' => some '\r'
  | 't' => some '\t'
  | _ => none

/-- The pieces of a string up to its closing quote, and the characters after
it. Control characters have to be escaped. -/
def pieces : List Char → Option (List Piece × List Char)
  | '"' :: rest => some ([], rest)
  | '\\' :: 'u' :: a :: b :: c :: d :: rest => do
    let unit ← Text.readHex? [a, b, c, d]
    let (found, rest) ← pieces rest
    some (.ofUnit unit :: found, rest)
  | '\\' :: e :: rest => do
    let c ← unescape? e
    let (found, rest) ← pieces rest
    some (.char c :: found, rest)
  | c :: rest => do
    if c = '\\' ∨ c.toNat < 0x20 then none
    let (found, rest) ← pieces rest
    some (.char c :: found, rest)
  | [] => none

/-- The characters that pieces stand for, unless a surrogate is unpaired. -/
def assemble : List Piece → Option (List Char)
  | [] => some []
  | .char c :: rest => (assemble rest).map (c :: ·)
  | .high h :: .low l :: rest => (assemble rest).map (Char.ofNat (0x10000 + 0x400 * h + l) :: ·)
  | _ => none

/-- The string whose opening quote has been read, and the characters after it. -/
def stringRest? (cs : List Char) : Option (Option String × List Char) :=
  (pieces cs).map fun (found, rest) => ((assemble found).map String.ofList, rest)

/-! ## Numbers -/

/-- The whole part of a number: a zero, or digits of which the first is none. -/
def wholePart? (cs : List Char) : Option (List Char × List Char) :=
  match cs with
  | '0' :: rest => some (['0'], rest)
  | c :: _ =>
    if Text.isDigit c then some (cs.takeWhile Text.isDigit, cs.dropWhile Text.isDigit) else none
  | [] => none

/-- The digits of an optional part that a mark opens; none when no digit follows the mark. -/
def someDigits? (cs : List Char) : Option (List Char × List Char) :=
  let digits := cs.takeWhile Text.isDigit
  if digits.isEmpty then none else some (digits, cs.dropWhile Text.isDigit)

/-- The optional fraction of a number; none when it is malformed. -/
def fraction? (cs : List Char) : Option (Option (List Char) × List Char) :=
  match cs with
  | '.' :: rest => (someDigits? rest).map fun (digits, rest) => (some digits, rest)
  | _ => some (none, cs)

/-- The optional exponent of a number; none when it is malformed. -/
def exponent? (cs : List Char) : Option (Option Int × List Char) :=
  match cs with
  | e :: rest =>
    if e = 'e' ∨ e = 'E' then
      let (sign, rest) : Int × List Char := match rest with
        | '+' :: rest => (1, rest)
        | '-' :: rest => (-1, rest)
        | _ => (1, rest)
      (someDigits? rest).map fun (digits, rest) => (some (sign * Text.digitsValue digits), rest)
    else some (none, cs)
  | [] => some (none, cs)

/-- The number at the start of the text. -/
def number? (cs : List Char) : Option (Number × List Char) := do
  let (negative, cs) := match cs with
    | '-' :: rest => (true, rest)
    | _ => (false, cs)
  let (whole, cs) ← wholePart? cs
  let (fraction, cs) ← fraction? cs
  let (exponent, cs) ← exponent? cs
  let value := Text.digitsValue whole
  match fraction, exponent with
  | none, none =>
    if negative ∧ value = 0 then some (.decimal true 0 0, cs)
    else some (.integer (if negative then -(value : Int) else value), cs)
  | _, _ =>
    let fraction := fraction.getD []
    some (.decimal negative (Text.digitsValue (whole ++ fraction))
      (exponent.getD 0 - fraction.length), cs)

/-! ## Values -/

/-- The literal word at the start of the text. -/
def word? (cs : List Char) : Option (Json × List Char) :=
  match cs with
  | 'n' :: 'u' :: 'l' :: 'l' :: rest => some (.null, rest)
  | 't' :: 'r' :: 'u' :: 'e' :: rest => some (.bool true, rest)
  | 'f' :: 'a' :: 'l' :: 's' :: 'e' :: rest => some (.bool false, rest)
  | _ => none

mutual

/-- The value at the start of the text, after spaces. Each step that does not
shorten the text is followed by one that does, so twice the length of the
text is fuel enough. -/
def value? : Nat → List Char → Option (Json × List Char)
  | 0, _ => none
  | fuel + 1, cs =>
    match skipSpace cs with
    | '"' :: rest => (stringRest? rest).map fun (s, rest) => (.string s, rest)
    | '[' :: rest =>
      match skipSpace rest with
      | ']' :: rest => some (.array [], rest)
      | rest => (elements? fuel rest).map fun (xs, rest) => (.array xs, rest)
    | '\x7b' :: rest =>
      match skipSpace rest with
      | '\x7d' :: rest => some (.object [], rest)
      | rest => (members? fuel rest).map fun (ms, rest) => (.object ms, rest)
    | c :: rest =>
      if c = '-' ∨ Text.isDigit c then
        (number? (c :: rest)).map fun (n, rest) => (.number n, rest)
      else word? (c :: rest)
    | [] => none

/-- The elements of an array up to its closing bracket. -/
def elements? : Nat → List Char → Option (List Json × List Char)
  | 0, _ => none
  | fuel + 1, cs => do
    let (x, rest) ← value? fuel cs
    match skipSpace rest with
    | ',' :: rest => (elements? fuel rest).map fun (xs, rest) => (x :: xs, rest)
    | ']' :: rest => some ([x], rest)
    | _ => none

/-- The members of an object up to its closing brace. -/
def members? : Nat → List Char → Option (List (Option String × Json) × List Char)
  | 0, _ => none
  | fuel + 1, cs =>
    match skipSpace cs with
    | '"' :: rest => do
      let (key, rest) ← stringRest? rest
      match skipSpace rest with
      | ':' :: rest => do
        let (x, rest) ← value? fuel rest
        match skipSpace rest with
        | ',' :: rest => (members? fuel rest).map fun (ms, rest) => ((key, x) :: ms, rest)
        | '\x7d' :: rest => some ([(key, x)], rest)
        | _ => none
      | _ => none
    | _ => none

end

/-- The value that a text is, between spaces. -/
def parse? (s : String) : Option Json :=
  let cs := s.toList
  match value? (2 * cs.length + 2) cs with
  | some (x, rest) => if skipSpace rest = [] then some x else none
  | none => none

end WalletLedger.Json
