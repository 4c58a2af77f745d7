/-!
# Blank characters

The characters with the Unicode property White_Space, and trimming by it.
`trim` removes exactly the blanks at both ends of a text (`isBlank_head_trim`,
`isBlank_getLast_trim`), so a text is blank when nothing is left of it
(`isBlankText`).
-/

namespace WalletLedger.Text

/-- Whether a character has the Unicode property White_Space. -/
def isBlank (c : Char) : Bool :=
  ('\t' ≤ c && c ≤ '\x0d') || c == ' ' || c == '\u0085' || c == '\u00a0' || c == '\u1680' ||
    ('\u2000' ≤ c && c ≤ '\u200a') || c == '\u2028' || c == '\u2029' || c == '\u202f' ||
    c == '\u205f' || c == '\u3000'

/-- The characters from the first that is not blank. -/
def trimStart (cs : List Char) : List Char :=
  cs.dropWhile isBlank

/-- The characters up to the last that is not blank. -/
def trimEnd (cs : List Char) : List Char :=
  (cs.reverse.dropWhile isBlank).reverse

/-- The characters between the first and the last that are not blank. -/
def trim (cs : List Char) : List Char :=
  trimEnd (trimStart cs)

/-- A text without the blanks at its ends. -/
def strip (s : String) : String :=
  String.ofList (trim s.toList)

/-- Whether a text holds nothing but blanks. -/
def isBlankText (s : String) : Bool :=
  s.toList.all isBlank

/-! ## What is left -/

theorem isBlank_head_dropWhile {cs : List Char} {c : Char}
    (h : (cs.dropWhile isBlank).head? = some c) : isBlank c = false := by
  have := List.head?_dropWhile_not isBlank cs
  rwa [h] at this

theorem trimEnd_prefix (cs : List Char) : trimEnd cs <+: cs := by
  have dropped : cs.reverse.dropWhile isBlank <:+ cs.reverse := List.dropWhile_suffix _
  rw [← List.reverse_prefix, List.reverse_reverse] at dropped
  exact dropped

/-- No blank is left at the start. -/
theorem isBlank_head_trim {cs : List Char} {c : Char} (h : (trim cs).head? = some c) :
    isBlank c = false := by
  obtain ⟨rest, whole⟩ := trimEnd_prefix (trimStart cs)
  have started : (trimStart cs).head? = some c := by
    rw [← whole, List.head?_append, show (trimEnd (trimStart cs)).head? = some c from h]
    rfl
  exact isBlank_head_dropWhile started

/-- No blank is left at the end. -/
theorem isBlank_getLast_trim {cs : List Char} {c : Char} (h : (trim cs).getLast? = some c) :
    isBlank c = false := by
  rw [trim, trimEnd, List.getLast?_reverse] at h
  exact isBlank_head_dropWhile h

/-- Every blank lies before or after the printed characters of ASCII. -/
theorem toNat_of_isBlank {c : Char} (blank : isBlank c) : c.toNat ≤ 32 ∨ 133 ≤ c.toNat := by
  unfold isBlank at blank
  have le {a b : Char} (h : a ≤ b) : a.toNat ≤ b.toNat := UInt32.le_iff_toNat_le.mp h
  simp only [Bool.or_eq_true, Bool.and_eq_true, decide_eq_true_eq, beq_iff_eq] at blank
  rcases blank with (((((((((⟨-, control⟩ | rfl) | rfl) | rfl) | rfl) | ⟨space, -⟩) | rfl) |
    rfl) | rfl) | rfl) | rfl
  · exact .inl (Nat.le_trans (le control) (by decide))
  · exact .inl (by decide)
  · exact .inr (by decide)
  · exact .inr (by decide)
  · exact .inr (by decide)
  · exact .inr (Nat.le_trans (by decide) (le space))
  all_goals exact .inr (by decide)

end WalletLedger.Text
