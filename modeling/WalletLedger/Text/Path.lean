/-!
# Paths

A path is read as names between slashes. Empty names, and dots that are not
at the start, say nothing.
-/

namespace WalletLedger.Text

/-- What a path says. -/
structure Path where
  /-- Whether it starts at the root. -/
  isAbsolute : Bool
  /-- Whether it starts with a dot. -/
  startsHere : Bool
  names : List String
deriving DecidableEq, Repr, Inhabited

namespace Path

/-- The path of a text. -/
def ofString (s : String) : Path :=
  let parts := s.toList.splitOn '/'
  let isAbsolute := s.toList.head? = some '/'
  { isAbsolute
    startsHere := parts.head? = some ['.']
    names := (parts.filter fun part => part ≠ [] && part ≠ ['.']).map String.ofList }

/-- Whether a text says that its path is a directory: it ends with a slash, or
with a dot or two as its last name. -/
def endsInDirectory (s : String) : Bool :=
  let last := (s.toList.splitOn '/').getLastD []
  last == [] || last == ['.'] || last == ['.', '.']

end Path

end WalletLedger.Text
