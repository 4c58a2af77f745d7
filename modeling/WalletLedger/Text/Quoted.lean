import WalletLedger.Text.Hexadecimal
import WalletLedger.Text.Printable

/-!
# Quoted text

A text between double quotes on one line. Quotes and backslashes are escaped
by a backslash, the common controls by a letter, and every other character
that is not printable by its code point in hexadecimal.
-/

namespace WalletLedger.Text

/-- The quoted form of one character. -/
def quoteChar (c : Char) : List Char :=
  if c = '\x00' then ['\\', '0']
  else if c = '\t' then ['\\', 't']
  else if c = '\r' then ['\\', 'r']
  else if c = '\n' then ['\\', 'n']
  else if c = '\\' ∨ c = '"' then ['\\', c]
  else if isPrintable c then [c]
  else '\\' :: 'u' :: '\x7b' :: hexadecimal c.toNat ++ ['\x7d']

/-- A text in quotes. -/
def quoted (s : String) : String :=
  String.ofList ('"' :: s.toList.flatMap quoteChar ++ ['"'])

end WalletLedger.Text
