import WalletLedger.Text.Blank
import WalletLedger.Text.Hexadecimal

/-!
# UUIDs

The spellings under which a text is taken for a UUID, and a numbering of
identifiers. Numbered identifiers are spelled in
lower case with hyphens, and no two of them are the same (`numbered_injective`).
As long as the number fits into the last group it is the hyphenated spelling of
a UUID (`isHyphenated_numbered`).
-/

namespace WalletLedger.Uuid

/-- Whether a text is made of runs of hexadecimal digits of the given lengths,
with a hyphen between one run and the next. -/
def isGrouped : List Nat → List Char → Bool
  | [], cs => cs.isEmpty
  | [n], cs => cs.length == n && cs.all Text.isHexDigit
  | n :: ns, cs =>
    (cs.take n).length == n && (cs.take n).all Text.isHexDigit &&
      match cs.drop n with
      | '-' :: rest => isGrouped ns rest
      | _ => false

/-- The hyphenated spelling, in groups of 8, 4, 4, 4 and 12 digits. -/
def isHyphenated (cs : List Char) : Bool :=
  isGrouped [8, 4, 4, 4, 12] cs

/-- The spelling without hyphens. -/
def isSimple (cs : List Char) : Bool :=
  isGrouped [32] cs

/-- Whether a text is one of the four spellings of a UUID: hyphenated, simple,
hyphenated after `urn:uuid:`, or hyphenated in braces. -/
def isSpelling (s : String) : Bool :=
  let cs := s.toList
  isHyphenated cs || isSimple cs ||
    (cs.take 9 == "urn:uuid:".toList && isHyphenated (cs.drop 9)) ||
    (cs.take 1 == ['\x7b'] && cs.drop 37 == ['\x7d'] && isHyphenated ((cs.drop 1).take 36))

/-- The identifier of a number. Its last group is the number; below 16¹² the
identifier is the hyphenated spelling of a version 4 UUID. -/
def numbered (n : Nat) : String :=
  String.ofList ("5e9a7c31-d2f4-4b68-9d05-".toList ++ Text.hexPadded 12 n)

theorem numbered_injective {m n : Nat} (h : numbered m = numbered n) : m = n := by
  have tails := List.append_cancel_left (String.ofList_injective h)
  have values := congrArg Text.readHex? tails
  simpa [Text.readHex?_hexPadded] using values

theorem isBlankText_numbered (n : Nat) : Text.isBlankText (numbered n) = false := by
  have text : (numbered n).toList = _ := String.toList_ofList
  rw [Text.isBlankText, text, List.all_append]
  exact Bool.and_eq_false_iff.mpr (.inl (by decide))

/-- A group of digits is taken off. -/
theorem isGrouped_append {n m : Nat} {ns : List Nat} {digits rest : List Char}
    (long : digits.length = n) (hex : digits.all Text.isHexDigit) :
    isGrouped (n :: m :: ns) (digits ++ '-' :: rest) = isGrouped (m :: ns) rest := by
  subst long
  simp only [isGrouped, List.take_left, List.drop_left, beq_self_eq_true, hex, Bool.true_and]

theorem isHyphenated_numbered {n : Nat} (h : n < Nat.pow 16 12) :
    isHyphenated (numbered n).toList := by
  have long : (Text.hexPadded 12 n).length = 12 := Text.length_hexPadded h
  have last : isGrouped [12] (Text.hexPadded 12 n) := by
    simp only [isGrouped, long, Text.all_isHexDigit_hexPadded, beq_self_eq_true, Bool.and_self]
  have groups : "5e9a7c31-d2f4-4b68-9d05-".toList ++ Text.hexPadded 12 n =
      "5e9a7c31".toList ++ '-' :: ("d2f4".toList ++ '-' :: ("4b68".toList ++ '-' ::
        ("9d05".toList ++ '-' :: Text.hexPadded 12 n))) := by
    generalize Text.hexPadded 12 n = tail
    simp
  have hyphenated : isHyphenated ("5e9a7c31-d2f4-4b68-9d05-".toList ++ Text.hexPadded 12 n) := by
    unfold isHyphenated
    rw [groups]
    iterate 4 rw [isGrouped_append (by decide) (by decide)]
    exact last
  have text : (numbered n).toList = _ := String.toList_ofList
  simp only [text, hyphenated]

end WalletLedger.Uuid
