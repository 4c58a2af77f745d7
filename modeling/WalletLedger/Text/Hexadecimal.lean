import WalletLedger.Text.Numeral

/-!
# Hexadecimal digits

Reading digits of either case and writing digits in lower case. `readHex?`
undoes `hexadecimal`, with or without zeros in front (`readHex?_hexPadded`).
-/

namespace WalletLedger.Text

/-- The value of a hexadecimal digit of either case. -/
def hexValue? (c : Char) : Option Nat :=
  if isDigit c then some (digitValue c)
  else if 'a' ≤ c ∧ c ≤ 'f' then some (c.toNat - 'a'.toNat + 10)
  else if 'A' ≤ c ∧ c ≤ 'F' then some (c.toNat - 'A'.toNat + 10)
  else none

/-- Whether a character is a hexadecimal digit of either case. -/
def isHexDigit (c : Char) : Bool :=
  (hexValue? c).isSome

/-- The number that a run of hexadecimal digits names, most significant first. -/
def readHex? (cs : List Char) : Option Nat :=
  cs.foldl (fun n c => do return 16 * (← n) + (← hexValue? c)) (some 0)

/-- The lower-case hexadecimal digit of a number below sixteen. -/
def hexDigit (d : Nat) : Char :=
  if d < 10 then digitChar d else Char.ofNat ('a'.toNat + (d - 10))

/-- The last `width` hexadecimal digits of a number. -/
def hexDigits : Nat → Nat → List Char
  | 0, _ => []
  | width + 1, n => hexDigits width (n / 16) ++ [hexDigit (n % 16)]

/-- The hexadecimal digits of a number, without leading zeros. -/
def hexadecimal (n : Nat) : List Char :=
  if n < 16 then [hexDigit n] else hexadecimal (n / 16) ++ [hexDigit (n % 16)]

/-- The hexadecimal digits of a number, padded with zeros on the left to a least width. -/
def hexPadded (width n : Nat) : List Char :=
  List.replicate (width - (hexadecimal n).length) '0' ++ hexadecimal n

/-! ## Writing, then reading -/

theorem hexValue?_hexDigit {d : Nat} (h : d < 16) : hexValue? (hexDigit d) = some d := by
  have all : ∀ e : Fin 16, hexValue? (hexDigit e) = some e.val := by decide
  exact all ⟨d, h⟩

theorem readHex?_append_singleton (cs : List Char) (c : Char) :
    readHex? (cs ++ [c]) = do return 16 * (← readHex? cs) + (← hexValue? c) := by
  simp [readHex?, List.foldl_append]

theorem readHex?_hexadecimal (n : Nat) : readHex? (hexadecimal n) = some n := by
  induction n using Nat.strongRecOn with
  | ind n ih =>
    rw [hexadecimal]
    split
    · next h => simp [readHex?, hexValue?_hexDigit h]
    · next h =>
      rw [readHex?_append_singleton, ih (n / 16) (by omega),
        hexValue?_hexDigit (Nat.mod_lt n (by decide))]
      simp
      omega

theorem readHex?_zeros_append (k : Nat) (cs : List Char) :
    readHex? (List.replicate k '0' ++ cs) = readHex? cs := by
  induction k with
  | zero => simp
  | succ k ih => rw [← ih]; rfl

theorem readHex?_hexPadded (width n : Nat) : readHex? (hexPadded width n) = some n := by
  rw [hexPadded, readHex?_zeros_append, readHex?_hexadecimal]

/-! ## The digits written -/

theorem isHexDigit_hexDigit {d : Nat} (h : d < 16) : isHexDigit (hexDigit d) := by
  rw [isHexDigit, hexValue?_hexDigit h]
  rfl

theorem length_hexadecimal_le {width n : Nat} (h : n < Nat.pow 16 (width + 1)) :
    (hexadecimal n).length ≤ width + 1 := by
  induction width generalizing n with
  | zero =>
    rw [hexadecimal, if_pos (show n < 16 from h)]
    exact Nat.le_refl 1
  | succ width ih =>
    rw [hexadecimal]
    split
    · exact Nat.le_add_left 1 _
    · rw [List.length_append]
      exact Nat.add_le_add_right (ih ((Nat.div_lt_iff_lt_mul (by decide)).mpr h)) 1

theorem all_isHexDigit_hexadecimal (n : Nat) : (hexadecimal n).all isHexDigit := by
  induction n using Nat.strongRecOn with
  | ind n ih =>
    rw [hexadecimal]
    split
    · next h => simp [isHexDigit_hexDigit h]
    · next h =>
      rw [List.all_append, ih (n / 16) (by omega)]
      simp [isHexDigit_hexDigit (Nat.mod_lt n (by decide))]

/-- The digits of a small number have the width to which they are padded. -/
theorem length_hexPadded {width n : Nat} (h : n < Nat.pow 16 (width + 1)) :
    (hexPadded (width + 1) n).length = width + 1 := by
  have := length_hexadecimal_le h
  simp only [hexPadded, List.length_append, List.length_replicate]
  omega

theorem all_isHexDigit_hexPadded (width n : Nat) : (hexPadded width n).all isHexDigit := by
  have zero : isHexDigit '0' := by decide
  rw [hexPadded, List.all_append, all_isHexDigit_hexadecimal, Bool.and_true, List.all_eq_true]
  intro c mem
  rw [List.eq_of_mem_replicate mem]
  exact zero

/-- The digits lie between the zero and the letter f. -/
theorem toNat_of_isHexDigit {c : Char} (hex : isHexDigit c) : 48 ≤ c.toNat ∧ c.toNat ≤ 102 := by
  unfold isHexDigit hexValue? at hex
  have le {a b : Char} (h : a ≤ b) : a.toNat ≤ b.toNat := UInt32.le_iff_toNat_le.mp h
  split at hex
  · next digit =>
    simp only [isDigit, Bool.and_eq_true, decide_eq_true_eq] at digit
    have low : 48 ≤ c.toNat := le digit.1
    have high : c.toNat ≤ 57 := le digit.2
    omega
  · split at hex
    · next letter =>
      have low : 97 ≤ c.toNat := le letter.1
      have high : c.toNat ≤ 102 := le letter.2
      omega
    · split at hex
      · next letter =>
        have low : 65 ≤ c.toNat := le letter.1
        have high : c.toNat ≤ 70 := le letter.2
        omega
      · cases hex

/-- A digit in lower case is a digit in lower case. -/
theorem toLower_of_isHexDigit {c : Char} (hex : isHexDigit c) :
    isHexDigit c.toLower ∧ c.toLower.toLower = c.toLower := by
  have all : ∀ n : Fin 103, isHexDigit (Char.ofNat n) →
      isHexDigit (Char.ofNat n).toLower ∧
        (Char.ofNat n).toLower.toLower = (Char.ofNat n).toLower := by decide
  have small : c.toNat < 103 := Nat.lt_succ_of_le (toNat_of_isHexDigit hex).2
  have given := all ⟨c.toNat, small⟩
  rw [Char.ofNat_toNat] at given
  exact given hex

end WalletLedger.Text
