import WalletLedger.Supply
import WalletLedger.Text.Blank

/-!
# Spellings of UUIDs

A UUID is 32 hexadecimal digits, which are written in one of four forms; the
texts that are taken for UUIDs are exactly these (`isSpelling_iff`). Only the
hyphenated form with lower-case digits is canonical, and every other spelling
respells a canonical one (`isCanonical_or_respells`). A text that respells an
identifier, in another form or case or with blanks around it, is not canonical
itself (`not_isCanonical_of_respells`), so no two canonical identifiers respell
each other.
-/

namespace WalletLedger

namespace Uuid

/-! ## Forms -/

/-- Digits in groups of the given lengths, with a hyphen between one group and
the next. What is left after all lengths but the last is one group. -/
def grouped : List Nat → List Char → List Char
  | n :: m :: ns, ds => ds.take n ++ '-' :: grouped (m :: ns) (ds.drop n)
  | _, ds => ds

/-- The digits of a UUID, of either case. -/
structure AreDigits (ds : List Char) : Prop where
  length : ds.length = 32
  hex : ds.all Text.isHexDigit

/-- What goes before the digits of a UUID in a URN. -/
def urnStart : List Char := "urn:uuid:".toList

/-- The four forms in which a UUID is written. -/
inductive Form
  | hyphenated
  | simple
  | urn
  | braced

/-- Digits written in a form. -/
def Form.write (ds : List Char) : Form → List Char
  | hyphenated => grouped [8, 4, 4, 4, 12] ds
  | simple => ds
  | urn => urnStart ++ grouped [8, 4, 4, 4, 12] ds
  | braced => '\x7b' :: grouped [8, 4, 4, 4, 12] ds ++ ['\x7d']

/-! ## Groups -/

section Groups

variable {n : Nat} {ns : List Nat} {cs ds es : List Char}

theorem isGrouped_iff : isGrouped (n :: ns) cs = true ↔
    ∃ ds : List Char, ds.length = (n :: ns).foldr (· + ·) 0 ∧ ds.all Text.isHexDigit ∧
      cs = grouped (n :: ns) ds := by
  induction ns generalizing n cs with
  | nil =>
    simp only [isGrouped, grouped, Bool.and_eq_true, beq_iff_eq, List.foldr_cons, List.foldr_nil,
      Nat.add_zero]
    constructor
    · rintro ⟨long, hex⟩
      exact ⟨cs, long, hex, rfl⟩
    · rintro ⟨ds, long, hex, rfl⟩
      exact ⟨long, hex⟩
  | cons m ns ih =>
    constructor
    · intro holds
      simp only [isGrouped, Bool.and_eq_true, beq_iff_eq] at holds
      obtain ⟨⟨long, hex⟩, tail⟩ := holds
      split at tail
      · next rest after =>
        obtain ⟨ds, length, digits, rfl⟩ := ih.mp tail
        refine ⟨cs.take n ++ ds, ?_, ?_, ?_⟩
        · rw [List.length_append, long, length, List.foldr_cons (l := m :: ns)]
        · rw [List.all_append, hex, digits]
          rfl
        · rw [grouped, List.take_left' long, List.drop_left' long, ← after, List.take_append_drop]
      · cases tail
    · rintro ⟨ds, length, hex, rfl⟩
      rw [List.foldr_cons] at length
      have part {es : List Char} (sub : ∀ c ∈ es, c ∈ ds) : es.all Text.isHexDigit :=
        List.all_eq_true.mpr fun c mem => List.all_eq_true.mp hex c (sub c mem)
      rw [grouped, isGrouped_append]
      · exact ih.mpr ⟨ds.drop n, by rw [List.length_drop]; omega,
          part fun _ => List.mem_of_mem_drop, rfl⟩
      · rw [List.length_take]
        omega
      · exact part fun _ => List.mem_of_mem_take

/-- The digits are what is left without the hyphens. -/
theorem filter_grouped (digits : ∀ c ∈ ds, c ≠ '-') :
    (grouped ns ds).filter (· ≠ '-') = ds := by
  fun_induction grouped ns ds with
  | case1 n m ns ds ih =>
    have front : (ds.take n).filter (· ≠ '-') = ds.take n :=
      List.filter_eq_self.mpr fun c mem => decide_eq_true (digits c (List.mem_of_mem_take mem))
    rw [List.filter_append, front, List.filter_cons_of_neg (by simp),
      ih fun c mem => digits c (List.mem_of_mem_drop mem), List.take_append_drop]
  | case2 ds => exact List.filter_eq_self.mpr fun c mem => decide_eq_true (digits c mem)

theorem length_grouped : (grouped (n :: ns) ds).length = ds.length + ns.length := by
  induction ns generalizing n ds with
  | nil => rfl
  | cons m ns ih =>
    simp only [grouped, List.length_append, List.length_cons, ih, List.length_take,
      List.length_drop]
    omega

theorem mem_grouped {c : Char} (mem : c ∈ grouped ns ds) : c ∈ ds ∨ c = '-' := by
  fun_induction grouped ns ds with
  | case1 n m ns ds ih =>
    rcases List.mem_append.mp mem with front | rest
    · exact .inl (List.mem_of_mem_take front)
    · rcases List.mem_cons.mp rest with rfl | rest
      · exact .inr rfl
      · exact (ih rest).imp_left List.mem_of_mem_drop
  | case2 ds => exact .inl mem

end Groups

/-! ## The spellings that are accepted -/

section Spellings

variable {s : String} {cs ds es : List Char}

theorem AreDigits.ne_hyphen (digits : AreDigits ds) {c : Char} (mem : c ∈ ds) : c ≠ '-' := by
  rintro rfl
  exact absurd (List.all_eq_true.mp digits.hex _ mem) (by decide)

theorem isHyphenated_iff : isHyphenated cs = true ↔
    ∃ ds, AreDigits ds ∧ cs = Form.hyphenated.write ds := by
  have sum : [8, 4, 4, 4, 12].foldr (· + ·) 0 = 32 := by decide
  rw [isHyphenated, isGrouped_iff, sum]
  exact ⟨fun ⟨ds, length, hex, eq⟩ => ⟨ds, ⟨length, hex⟩, eq⟩,
    fun ⟨ds, digits, eq⟩ => ⟨ds, digits.length, digits.hex, eq⟩⟩

theorem isSimple_iff : isSimple cs = true ↔ ∃ ds, AreDigits ds ∧ cs = Form.simple.write ds := by
  have sum : [32].foldr (· + ·) 0 = 32 := by decide
  rw [isSimple, isGrouped_iff, sum]
  exact ⟨fun ⟨ds, length, hex, eq⟩ => ⟨ds, ⟨length, hex⟩, eq⟩,
    fun ⟨ds, digits, eq⟩ => ⟨ds, digits.length, digits.hex, eq⟩⟩

theorem AreDigits.length_hyphenated (digits : AreDigits ds) :
    (Form.hyphenated.write ds).length = 36 := by
  rw [Form.write, length_grouped, digits.length]
  rfl

/-- A text is taken for a UUID exactly when it is 32 digits, of either case, in
one of the four forms. -/
theorem isSpelling_iff : isSpelling s = true ↔
    ∃ form ds, AreDigits ds ∧ s.toList = Form.write ds form := by
  have urn : (s.toList.take 9 == "urn:uuid:".toList && isHyphenated (s.toList.drop 9)) = true ↔
      ∃ ds, AreDigits ds ∧ s.toList = Form.urn.write ds := by
    rw [Bool.and_eq_true, beq_iff_eq, isHyphenated_iff]
    constructor
    · rintro ⟨front, ds, digits, rest⟩
      refine ⟨ds, digits, (List.take_append_drop 9 s.toList).symm.trans ?_⟩
      rw [front, rest]
      rfl
    · rintro ⟨ds, digits, text⟩
      have long : urnStart.length = 9 := by decide
      rw [text, Form.write, List.take_left' long, List.drop_left' long]
      exact ⟨rfl, ds, digits, rfl⟩
  have braced : (s.toList.take 1 == ['\x7b'] && s.toList.drop 37 == ['\x7d'] &&
      isHyphenated ((s.toList.drop 1).take 36)) = true ↔
      ∃ ds, AreDigits ds ∧ s.toList = Form.braced.write ds := by
    rw [Bool.and_eq_true, Bool.and_eq_true, beq_iff_eq, beq_iff_eq, isHyphenated_iff]
    constructor
    · rintro ⟨⟨front, last⟩, ds, digits, middle⟩
      refine ⟨ds, digits, ?_⟩
      have rest : s.toList.drop 1 = Form.hyphenated.write ds ++ ['\x7d'] := by
        rw [← middle, ← last, ← List.drop_drop (i := 36) (j := 1), List.take_append_drop]
      exact (List.take_append_drop 1 s.toList).symm.trans (by rw [front, rest]; rfl)
    · rintro ⟨ds, digits, text⟩
      have long : (grouped [8, 4, 4, 4, 12] ds).length = 36 := digits.length_hyphenated
      have opened : ('\x7b' :: grouped [8, 4, 4, 4, 12] ds).length = 37 := congrArg (· + 1) long
      rw [text, Form.write]
      exact ⟨⟨rfl, List.drop_left' opened⟩, ds, digits, List.take_left' long⟩
  unfold isSpelling
  rw [Bool.or_eq_true, Bool.or_eq_true, Bool.or_eq_true, urn, braced, isHyphenated_iff,
    isSimple_iff]
  constructor
  · rintro (((⟨ds, h⟩ | ⟨ds, h⟩) | ⟨ds, h⟩) | ⟨ds, h⟩)
    · exact ⟨.hyphenated, ds, h⟩
    · exact ⟨.simple, ds, h⟩
    · exact ⟨.urn, ds, h⟩
    · exact ⟨.braced, ds, h⟩
  · rintro ⟨form, ds, h⟩
    cases form with
    | hyphenated => exact .inl (.inl (.inl ⟨ds, h⟩))
    | simple => exact .inl (.inl (.inr ⟨ds, h⟩))
    | urn => exact .inl (.inr ⟨ds, h⟩)
    | braced => exact .inr ⟨ds, h⟩

end Spellings

/-! ## Canonical identifiers -/

/-- An identifier is a UUID in hyphenated form with lower-case digits. -/
def IsCanonical (id : String) : Prop :=
  ∃ ds, AreDigits ds ∧ ds.map Char.toLower = ds ∧ id.toList = Form.hyphenated.write ds

/-- A text is another spelling of a canonical identifier: with blanks around it
or without, it is another text of the same digits, in any form and of either case. -/
structure Respells (text id : String) : Prop where
  other : text ≠ id
  same : ∃ before after ds form, before.all Text.isBlank ∧ after.all Text.isBlank ∧
    AreDigits ds ∧ text.toList = before ++ Form.write ds form ++ after ∧
    id.toList = Form.hyphenated.write (ds.map Char.toLower)

section Canonical

variable {text id : String} {n : Nat} {c : Char} {ds : List Char} {form : Form}

/-- Neither digits nor hyphens are blank. -/
theorem not_isBlank (written : Text.isHexDigit c ∨ c = '-') : Text.isBlank c = false := by
  refine Bool.eq_false_iff.mpr fun blank => ?_
  have outside := Text.toNat_of_isBlank blank
  rcases written with hex | rfl
  · have inside := Text.toNat_of_isHexDigit hex
    omega
  · exact absurd blank (by decide)

/-- Only the hyphenated form is as long. -/
theorem eq_hyphenated (digits : AreDigits ds) (long : (Form.write ds form).length = 36) :
    form = .hyphenated := by
  have hyphenated : (grouped [8, 4, 4, 4, 12] ds).length = 36 := digits.length_hyphenated
  have urn : urnStart.length = 9 := by decide
  cases form with
  | hyphenated => rfl
  | simple =>
    rw [Form.write, digits.length] at long
    cases long
  | urn =>
    rw [Form.write, List.length_append, urn, hyphenated] at long
    cases long
  | braced =>
    rw [Form.write, List.length_append, List.length_cons, hyphenated] at long
    cases long

theorem hyphenated_inj {es : List Char} (digits : AreDigits ds) (digits' : AreDigits es)
    (same : Form.hyphenated.write ds = Form.hyphenated.write es) : ds = es := by
  have left : (Form.hyphenated.write ds).filter (· ≠ '-') = ds :=
    filter_grouped fun _ => digits.ne_hyphen
  rw [← left, same]
  exact filter_grouped fun _ => digits'.ne_hyphen

/-- The characters of a canonical identifier are digits and hyphens. -/
theorem IsCanonical.written (canonical : IsCanonical id) (mem : c ∈ id.toList) :
    Text.isHexDigit c ∨ c = '-' := by
  obtain ⟨ds, digits, -, text⟩ := canonical
  rw [text] at mem
  exact (mem_grouped mem).imp_left (List.all_eq_true.mp digits.hex c)

/-- Another spelling is not canonical. -/
theorem not_isCanonical_of_respells (respells : Respells text id) : ¬ IsCanonical text := by
  intro canonical
  obtain ⟨other, before, after, ds, form, blankBefore, blankAfter, digits, spelled, same⟩ :=
    respells
  have unblank {cs : List Char} (blank : cs.all Text.isBlank) (sub : ∀ c ∈ cs, c ∈ text.toList) :
      cs = [] := by
    refine List.eq_nil_iff_forall_not_mem.mpr fun c mem => ?_
    have := not_isBlank (canonical.written (sub c mem))
    rw [List.all_eq_true.mp blank c mem] at this
    cases this
  obtain rfl := unblank blankBefore fun c mem => by simp [spelled, mem]
  obtain rfl := unblank blankAfter fun c mem => by simp [spelled, mem]
  rw [List.nil_append, List.append_nil] at spelled
  obtain ⟨es, digits', lower, written⟩ := canonical
  have long : (Form.write ds form).length = 36 := by
    rw [← spelled, written]
    exact digits'.length_hyphenated
  obtain rfl := eq_hyphenated digits long
  obtain rfl := hyphenated_inj digits digits' (spelled.symm.trans written)
  rw [lower] at same
  exact other (String.toList_inj.mp (written.trans same.symm))

/-- A text that is taken for a UUID is a canonical identifier or respells one. -/
theorem isCanonical_or_respells (spelled : isSpelling text) :
    ∃ id, IsCanonical id ∧ (text = id ∨ Respells text id) := by
  obtain ⟨form, ds, digits, written⟩ := isSpelling_iff.mp spelled
  let id := String.ofList (Form.hyphenated.write (ds.map Char.toLower))
  have named : id.toList = Form.hyphenated.write (ds.map Char.toLower) := String.toList_ofList
  have lower (c : Char) (mem : c ∈ ds) :=
    Text.toLower_of_isHexDigit (List.all_eq_true.mp digits.hex c mem)
  have canonical : IsCanonical id := by
    refine ⟨ds.map Char.toLower, ⟨?_, ?_⟩, ?_, named⟩
    · rw [List.length_map, digits.length]
    · rw [List.all_map]
      exact List.all_eq_true.mpr fun c mem => (lower c mem).1
    · rw [List.map_map]
      exact List.map_congr_left fun c mem => (lower c mem).2
  refine ⟨id, canonical, ?_⟩
  by_cases own : text = id
  · exact .inl own
  · refine .inr ⟨own, [], [], ds, form, rfl, rfl, digits, ?_, named⟩
    rw [List.nil_append, List.append_nil]
    exact written

theorem isCanonical_iff : IsCanonical id ↔
    isHyphenated id.toList ∧ id.toList.map Char.toLower = id.toList := by
  have digits_of {ds : List Char} (digits : AreDigits ds) :
      (Form.hyphenated.write ds).filter (· ≠ '-') = ds :=
    filter_grouped fun _ => digits.ne_hyphen
  constructor
  · rintro ⟨ds, digits, lower, written⟩
    refine ⟨isHyphenated_iff.mpr ⟨ds, digits, written⟩, ?_⟩
    rw [written]
    refine (List.map_congr_left fun c mem => ?_).trans (List.map_id _)
    rcases mem_grouped mem with digit | rfl
    · exact List.map_inj_left.mp (lower.trans (List.map_id ds).symm) c digit
    · rfl
  · rintro ⟨hyphenated, lower⟩
    obtain ⟨ds, digits, written⟩ := isHyphenated_iff.mp hyphenated
    refine ⟨ds, digits, ?_, written⟩
    refine (List.map_congr_left fun c mem => ?_).trans (List.map_id ds)
    rw [← digits_of digits] at mem
    exact List.map_inj_left.mp (lower.trans (List.map_id _).symm) c
      (written ▸ (List.mem_filter.mp mem).1)

instance (id : String) : Decidable (IsCanonical id) :=
  decidable_of_iff _ isCanonical_iff.symm

end Canonical

end Uuid

/-- Every identifier given out so far is canonical. -/
def Supply.NamesUuids (s : Supply) : Prop :=
  ∀ n < s.ids, Uuid.IsCanonical (s.source.id n)

instance (s : Supply) : Decidable s.NamesUuids :=
  inferInstanceAs (Decidable (∀ n < s.ids, Uuid.IsCanonical (s.source.id n)))

end WalletLedger
