import WalletLedger.Text.Hexadecimal

/-!
# Percent-encoded text

A percent sign and two hexadecimal digits stand for an octet; runs of octets
have to be UTF-8. Everything else stands for itself, so a text without a
percent sign is its own decoding (`decode_eq_self_iff`). A decoding is either
strict, and names the place of the first fault, or puts U+FFFD in place of
each faulty sequence.
-/

namespace WalletLedger.Text.Percent

/-- An item of percent-encoded text: a character, or an octet between 0 and 255. -/
inductive Item
  | char (c : Char)
  | octet (n : Nat)

/-- The items of a text. A percent sign without two digits stands for itself. -/
def items : List Char → List Item
  | '%' :: a :: b :: rest =>
    match hexValue? a, hexValue? b with
    | some x, some y => .octet (16 * x + y) :: items rest
    | _, _ => .char '%' :: items (a :: b :: rest)
  | c :: rest => .char c :: items rest
  | [] => []

/-- A place where octets are not UTF-8: the index of the first octet of the
sequence, and how many octets of it are at fault; none when the text ends
within the sequence. -/
structure Fault where
  index : Nat
  length : Option Nat
deriving DecidableEq, Repr

/-- The text that describes a fault. -/
def Fault.message (f : Fault) : String :=
  match f.length with
  | some n => "invalid utf-8 sequence of " ++ ofNat n ++ " bytes from index " ++ ofNat f.index
  | none => "incomplete utf-8 byte sequence from index " ++ ofNat f.index

/-- An unfinished sequence: the value of its octets so far, their number, and
the ranges that the octets to come have to lie in. -/
structure Sequence where
  value : Nat
  taken : Nat
  pending : List (Nat × Nat)

/-- The sequence that an octet from 128 on opens. -/
def Sequence.start? (n : Nat) : Option Sequence :=
  let tail := (0x80, 0xbf)
  if 0xc2 ≤ n ∧ n ≤ 0xdf then some ⟨n - 0xc0, 1, [tail]⟩
  else if n = 0xe0 then some ⟨n - 0xe0, 1, [(0xa0, 0xbf), tail]⟩
  else if n = 0xed then some ⟨n - 0xe0, 1, [(0x80, 0x9f), tail]⟩
  else if 0xe1 ≤ n ∧ n ≤ 0xef then some ⟨n - 0xe0, 1, [tail, tail]⟩
  else if n = 0xf0 then some ⟨n - 0xf0, 1, [(0x90, 0xbf), tail, tail]⟩
  else if 0xf1 ≤ n ∧ n ≤ 0xf3 then some ⟨n - 0xf0, 1, [tail, tail, tail]⟩
  else if n = 0xf4 then some ⟨n - 0xf0, 1, [(0x80, 0x8f), tail, tail]⟩
  else none

/-- A decoding in progress: the index of the next octet, or of the first one
of an unfinished sequence. -/
structure Progress where
  index : Nat
  sequence : Option Sequence

/-- One item after a finished sequence. -/
def Progress.fresh (index : Nat) : Item → List (Except Fault Char) × Progress
  | .char c => ([.ok c], ⟨index + c.utf8Size, none⟩)
  | .octet n =>
    if n < 0x80 then ([.ok (Char.ofNat n)], ⟨index + 1, none⟩)
    else match Sequence.start? n with
      | some s => ([], ⟨index, some s⟩)
      | none => ([.error ⟨index, some 1⟩], ⟨index + 1, none⟩)

/-- The sequence after one more item; none when the item does not continue it. -/
def Sequence.extend? (s : Sequence) : Item → Option Sequence
  | .octet n =>
    match s.pending with
    | (low, high) :: more =>
      if low ≤ n ∧ n ≤ high then some ⟨64 * s.value + (n - 0x80), s.taken + 1, more⟩
      else none
    | [] => none
  | .char _ => none

/-- One item: what it yields and how the decoding goes on. -/
def Progress.step (p : Progress) (item : Item) : List (Except Fault Char) × Progress :=
  match p.sequence with
  | none => Progress.fresh p.index item
  | some s =>
    match s.extend? item with
    | some ⟨value, taken, []⟩ => ([.ok (Char.ofNat value)], ⟨p.index + taken, none⟩)
    | some s => ([], ⟨p.index, some s⟩)
    | none =>
      let (found, next) := Progress.fresh (p.index + s.taken) item
      (.error ⟨p.index, some s.taken⟩ :: found, next)

/-- The characters and faults that the items yield. -/
def scan (p : Progress) : List Item → List (Except Fault Char)
  | [] => if p.sequence.isSome then [.error ⟨p.index, none⟩] else []
  | item :: rest =>
    let (found, next) := p.step item
    found ++ scan next rest

/-- The decoded text, or the first fault. -/
def decode (s : String) : Except Fault String :=
  ((scan ⟨0, none⟩ (items s.toList)).mapM id).map String.ofList

/-- The decoded text, with U+FFFD in place of each fault. -/
def decodeLossy (cs : List Char) : List Char :=
  (scan ⟨0, none⟩ (items cs)).map fun
    | .ok c => c
    | .error _ => '\ufffd'

/-! ## Texts that stand for themselves -/

/-- Somewhere in a text a percent sign and two digits stand for an octet. -/
def HasEscape (cs : List Char) : Prop :=
  ∃ before a b after, cs = before ++ '%' :: a :: b :: after ∧ isHexDigit a ∧ isHexDigit b

theorem HasEscape.cons {c : Char} {cs : List Char} (h : HasEscape cs) : HasEscape (c :: cs) := by
  obtain ⟨before, a, b, after, rfl, digits⟩ := h
  exact ⟨c :: before, a, b, after, rfl, digits⟩

/-- An escape that does not stand at the start stands in the rest. -/
theorem HasEscape.tail {c : Char} {cs : List Char} (h : HasEscape (c :: cs))
    (elsewhere : ∀ a b after, c = '%' → cs = a :: b :: after →
      ¬ (isHexDigit a ∧ isHexDigit b)) : HasEscape cs := by
  obtain ⟨before, a, b, after, eq, digits⟩ := h
  cases before with
  | nil =>
    obtain ⟨rfl, rfl⟩ := List.cons.inj eq
    exact absurd digits (elsewhere a b after rfl rfl)
  | cons d before =>
    obtain ⟨rfl, rfl⟩ := List.cons.inj eq
    exact ⟨before, a, b, after, rfl, digits⟩

/-- A text without escapes has its characters for items. -/
theorem items_of_not_hasEscape {cs : List Char} (h : ¬ HasEscape cs) :
    items cs = cs.map Item.char := by
  fun_induction items cs with
  | case1 a b rest x y second first ih =>
    exact absurd ⟨[], a, b, rest, rfl, by simp [isHexDigit, first], by simp [isHexDigit, second]⟩ h
  | case2 a b rest _ ih => rw [ih fun inner => h inner.cons]; rfl
  | case3 c rest _ ih => rw [ih fun inner => h inner.cons]; rfl
  | case4 => rfl

/-- There are no more items than characters, and fewer if there is an escape. -/
theorem length_items (cs : List Char) :
    (items cs).length ≤ cs.length ∧ (HasEscape cs → (items cs).length < cs.length) := by
  fun_induction items cs with
  | case1 a b rest x y second first ih =>
    simp only [List.length_cons]
    omega
  | case2 a b rest plain ih =>
    refine ⟨Nat.succ_le_succ ih.1, fun escape => Nat.succ_lt_succ (ih.2 (escape.tail ?_))⟩
    rintro _ _ _ - ⟨⟩ ⟨first, second⟩
    obtain ⟨x, hx⟩ := Option.isSome_iff_exists.mp first
    obtain ⟨y, hy⟩ := Option.isSome_iff_exists.mp second
    exact plain x y hx hy
  | case3 c rest other ih =>
    refine ⟨Nat.succ_le_succ ih.1, fun escape => Nat.succ_lt_succ (ih.2 (escape.tail ?_))⟩
    rintro a b after rfl rfl -
    exact other a b after rfl rfl
  | case4 => exact ⟨Nat.le_refl 0, by rintro ⟨before, a, b, after, eq, -⟩; simp at eq⟩

/-- A character that is neither a percent sign nor a digit is an item wherever it stands. -/
theorem char_mem_items {c : Char} {cs : List Char} (mem : c ∈ cs) (notSign : c ≠ '%')
    (notDigit : hexValue? c = none) : .char c ∈ items cs := by
  fun_induction items cs with
  | case1 a b rest x y second first ih =>
    have ha : c ≠ a := by rintro rfl; simp [notDigit] at first
    have hb : c ≠ b := by rintro rfl; simp [notDigit] at second
    exact List.mem_cons_of_mem _ (ih (by simpa [notSign, ha, hb] using mem))
  | case2 a b rest _ ih => exact List.mem_cons_of_mem _ (ih (by simpa [notSign] using mem))
  | case3 d rest _ ih =>
    rcases List.mem_cons.mp mem with rfl | later
    · exact List.mem_cons_self
    · exact List.mem_cons_of_mem _ (ih later)
  | case4 => simp at mem

theorem scan_map_char (cs : List Char) (i : Nat) :
    scan ⟨i, none⟩ (cs.map Item.char) = cs.map Except.ok := by
  induction cs generalizing i with
  | nil => rfl
  | cons c rest ih => simp [scan, Progress.step, Progress.fresh, ih]

/-- A character among the items is yielded, whatever came before it. -/
theorem ok_mem_step (p : Progress) (c : Char) : .ok c ∈ (p.step (.char c)).1 := by
  obtain ⟨index, _ | s⟩ := p <;> simp [Progress.step, Progress.fresh, Sequence.extend?]

theorem scan_cons (p : Progress) (item : Item) (rest : List Item) :
    scan p (item :: rest) = (p.step item).1 ++ scan (p.step item).2 rest := rfl

theorem ok_mem_scan {c : Char} {its : List Item} (mem : .char c ∈ its) (p : Progress) :
    .ok c ∈ scan p its := by
  induction its generalizing p with
  | nil => simp at mem
  | cons item rest ih =>
    rw [scan_cons, List.mem_append]
    rcases List.mem_cons.mp mem with rfl | later
    · exact .inl (ok_mem_step p c)
    · exact .inr (ih later _)

theorem length_fresh (index : Nat) (item : Item) : (Progress.fresh index item).1.length ≤ 1 := by
  unfold Progress.fresh
  split
  · simp
  · split
    · simp
    · split <;> simp

/-- Without a fault an item yields one character at most. -/
theorem length_step {p : Progress} {item : Item} (sound : ∀ r ∈ (p.step item).1, ∃ c, r = .ok c) :
    (p.step item).1.length ≤ 1 := by
  unfold Progress.step at sound ⊢
  split at sound
  · exact length_fresh _ _
  · split at sound
    · simp
    · simp
    · obtain ⟨c, faulty⟩ := sound _ List.mem_cons_self
      cases faulty

/-- Without a fault there are no more characters than items. -/
theorem length_scan {p : Progress} {its : List Item} (sound : ∀ r ∈ scan p its, ∃ c, r = .ok c) :
    (scan p its).length ≤ its.length := by
  induction its generalizing p with
  | nil =>
    unfold scan at sound ⊢
    split at sound
    · obtain ⟨c, faulty⟩ := sound _ List.mem_cons_self
      cases faulty
    · next finished => simp [finished]
  | cons item rest ih =>
    rw [scan_cons] at sound ⊢
    have first := length_step fun r mem => sound r (List.mem_append_left _ mem)
    have later := ih fun r mem => sound r (List.mem_append_right _ mem)
    simp only [List.length_append, List.length_cons]
    omega

theorem mapM_id_map_ok (cs : List Char) :
    (cs.map (Except.ok (ε := Fault))).mapM id = .ok cs := by
  induction cs with
  | nil => rfl
  | cons c rest ih => simp only [List.map_cons, List.mapM_cons, ih]; rfl

theorem eq_map_of_mapM_id {rs : List (Except Fault Char)} {cs : List Char}
    (all : rs.mapM id = .ok cs) : rs = cs.map Except.ok := by
  induction rs generalizing cs with
  | nil => cases all; rfl
  | cons r rs ih =>
    rw [List.mapM_cons] at all
    rcases r with e | c
    · cases all
    · rcases rest : rs.mapM id with e | ds <;> rw [rest] at all <;> cases all
      rw [ih rest]
      rfl

theorem decode_eq_ok_iff {s t : String} :
    decode s = .ok t ↔ scan ⟨0, none⟩ (items s.toList) = t.toList.map Except.ok := by
  unfold decode
  constructor
  · rcases all : (scan ⟨0, none⟩ (items s.toList)).mapM id with e | cs <;> rintro ⟨⟩
    rw [eq_map_of_mapM_id all, String.toList_ofList]
  · intro scanned
    rw [scanned, mapM_id_map_ok]
    exact congrArg Except.ok (String.ofList_toList ..)

/-- A decoding is not longer than the items, so it is shorter than a text with an escape. -/
theorem length_of_decode {s t : String} (decoded : decode s = .ok t) :
    t.toList.length ≤ s.toList.length ∧
      (HasEscape s.toList → t.toList.length < s.toList.length) := by
  have scanned := decode_eq_ok_iff.mp decoded
  have sound : ∀ r ∈ scan ⟨0, none⟩ (items s.toList), ∃ c, r = .ok c := by
    intro r mem
    rw [scanned] at mem
    obtain ⟨c, -, rfl⟩ := List.mem_map.mp mem
    exact ⟨c, rfl⟩
  have few := length_scan sound
  rw [scanned, List.length_map] at few
  have := length_items s.toList
  exact ⟨by omega, fun escape => by have := this.2 escape; omega⟩

/-- A text is its own decoding exactly if it has no escape. -/
theorem decode_eq_self_iff {s : String} : decode s = .ok s ↔ ¬ HasEscape s.toList := by
  refine ⟨fun own escape => ?_, fun plain => ?_⟩
  · exact absurd ((length_of_decode own).2 escape) (Nat.lt_irrefl _)
  · rw [decode_eq_ok_iff, items_of_not_hasEscape plain, scan_map_char]

/-- A character that is neither a percent sign nor a digit survives a lossy decoding. -/
theorem mem_decodeLossy {c : Char} {cs : List Char} (mem : c ∈ cs) (notSign : c ≠ '%')
    (notDigit : hexValue? c = none) : c ∈ decodeLossy cs :=
  List.mem_map.mpr ⟨_, ok_mem_scan (char_mem_items mem notSign notDigit) _, rfl⟩

end WalletLedger.Text.Percent
