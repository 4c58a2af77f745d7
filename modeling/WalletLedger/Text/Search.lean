/-!
# Searching text

The first occurrence of a pattern. A text contains a pattern exactly when it
can be cut at one (`contains_iff`). A pattern that is dropped from the start of
a text leaves the text as it is exactly if it is not there (`dropStarts_eq_self_iff`).
-/

namespace WalletLedger.Text

/-- What is left of a text after a pattern at its start. -/
def dropStart? : List Char → List Char → Option (List Char)
  | [], cs => some cs
  | p :: ps, c :: cs => if p = c then dropStart? ps cs else none
  | _ :: _, [] => none

/-- The text before and after the first occurrence of a pattern. -/
def cut? (pattern : List Char) : List Char → Option (List Char × List Char)
  | [] => (dropStart? pattern []).map fun rest => ([], rest)
  | c :: cs =>
    match dropStart? pattern (c :: cs) with
    | some rest => some ([], rest)
    | none => (cut? pattern cs).map fun (before, rest) => (c :: before, rest)

/-- Whether a pattern occurs in a text. -/
def contains (pattern s : String) : Bool :=
  (cut? pattern.toList s.toList).isSome

/-- The text after the first occurrence of a pattern, up to the second. -/
def between? (pattern s : String) : Option String := do
  let (_, rest) ← cut? pattern.toList s.toList
  let found := match cut? pattern.toList rest with
    | some (before, _) => before
    | none => rest
  some (String.ofList found)

/-- A text without the given start, taken away as often as it is there. -/
def dropStarts (pattern cs : List Char) : List Char :=
  match dropStart? pattern cs with
  | some rest => if rest.length < cs.length then dropStarts pattern rest else cs
  | none => cs
termination_by cs.length

theorem dropStart?_eq_some_iff {p cs rest : List Char} :
    dropStart? p cs = some rest ↔ cs = p ++ rest := by
  induction p generalizing cs with
  | nil => simp [dropStart?, eq_comm]
  | cons a p ih =>
    cases cs with
    | nil => simp [dropStart?]
    | cons c cs =>
      by_cases h : a = c
      · simp [dropStart?, h, ih]
      · simp [dropStart?, h, Ne.symm h]

theorem cut?_isSome_iff {p cs : List Char} : (cut? p cs).isSome ↔ p <:+: cs := by
  induction cs with
  | nil =>
    cases p with
    | nil => simp [cut?, dropStart?]
    | cons a p => simp [cut?, dropStart?]
  | cons c cs ih =>
    rw [cut?]
    split
    · next rest h =>
      rw [dropStart?_eq_some_iff] at h
      simp only [Option.isSome_some, true_iff]
      exact h ▸ List.IsPrefix.isInfix (List.prefix_append p rest)
    · next h =>
      rw [Option.isSome_map, ih, List.infix_cons_iff]
      refine ⟨Or.inr, fun e => e.resolve_left fun ⟨rest, hr⟩ => ?_⟩
      rw [dropStart?_eq_some_iff.2 hr.symm] at h
      cases h

theorem contains_iff {p s : String} : contains p s = true ↔ p.toList <:+: s.toList :=
  cut?_isSome_iff

/-! ## Starts that are dropped -/

theorem dropStarts_of_not_prefix {p cs : List Char} (h : ¬ p <+: cs) : dropStarts p cs = cs := by
  have none_dropped : dropStart? p cs = none := by
    rw [Option.eq_none_iff_forall_ne_some]
    exact fun rest there => h ⟨rest, (dropStart?_eq_some_iff.mp there).symm⟩
  rw [dropStarts, none_dropped]

theorem dropStarts_append {p : List Char} (ne : p ≠ []) (cs : List Char) :
    dropStarts p (p ++ cs) = dropStarts p cs := by
  have shorter : cs.length < (p ++ cs).length := by
    rw [List.length_append]
    have := List.length_pos_iff.mpr ne
    omega
  rw [dropStarts, dropStart?_eq_some_iff.mpr rfl]
  exact if_pos shorter

theorem dropStarts_suffix (p cs : List Char) : dropStarts p cs <:+ cs := by
  fun_induction dropStarts p cs with
  | case1 cs rest dropped _ ih =>
    rw [dropStart?_eq_some_iff.mp dropped]
    exact ih.trans (List.suffix_append p rest)
  | case2 => exact List.suffix_refl _
  | case3 => exact List.suffix_refl _

theorem dropStarts_eq_self_iff {p cs : List Char} (ne : p ≠ []) :
    dropStarts p cs = cs ↔ ¬ p <+: cs := by
  refine ⟨?_, dropStarts_of_not_prefix⟩
  rintro same ⟨rest, rfl⟩
  rw [dropStarts_append ne] at same
  have := (dropStarts_suffix p rest).length_le
  rw [same, List.length_append] at this
  have := List.length_pos_iff.mpr ne
  omega

/-- A pattern does not reach past a character that is not in it. -/
theorem prefix_append_cons_iff {p cs rest : List Char} {mark : Char} (other : mark ∉ p) :
    p <+: cs ++ mark :: rest ↔ p <+: cs := by
  refine ⟨fun start => ?_, fun start => start.trans (List.prefix_append _ _)⟩
  rcases Nat.lt_or_ge cs.length p.length with longer | short
  · have within : cs ++ [mark] <+: cs ++ mark :: rest := ⟨rest, by simp⟩
    have marked : cs ++ [mark] <+: p :=
      List.prefix_of_prefix_length_le within start (by simpa using Nat.succ_le_of_lt longer)
    exact absurd (marked.subset (by simp)) other
  · exact List.prefix_of_prefix_length_le start (List.prefix_append _ _) short

/-- What is dropped does not reach past a character that is not in the pattern. -/
theorem dropStarts_append_cons {p rest : List Char} {mark : Char} (ne : p ≠ []) (other : mark ∉ p)
    (cs : List Char) : dropStarts p (cs ++ mark :: rest) = dropStarts p cs ++ mark :: rest := by
  fun_induction dropStarts p cs with
  | case1 cs left dropped _ ih =>
    rw [dropStart?_eq_some_iff.mp dropped, List.append_assoc, dropStarts_append ne, ih]
  | case2 cs left dropped long =>
    rw [dropStart?_eq_some_iff.mp dropped, List.length_append] at long
    have := List.length_pos_iff.mpr ne
    omega
  | case3 cs kept =>
    refine dropStarts_of_not_prefix fun start => ?_
    obtain ⟨left, eq⟩ := (prefix_append_cons_iff other).mp start
    simp [dropStart?_eq_some_iff.mpr eq.symm] at kept

end WalletLedger.Text
