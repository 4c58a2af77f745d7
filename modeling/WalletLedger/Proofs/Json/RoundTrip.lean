import WalletLedger.Json.Parser
import WalletLedger.Json.Printer

/-!
# Reading what was written

Texts of plain values are read back as these values (`parse?_toText`). A value
is plain when its strings and keys name texts and its numbers are integers that
are written digit by digit. What is written ends where its last character does:
after a value stands nothing, or a mark that no value goes on with (`Ends`).
-/

namespace WalletLedger.Json

open Text

/-! ## Strings -/

theorem readHex?_hexDigits {n : Nat} (h : n < 0x20) : readHex? (hexDigits 4 n) = some n := by
  have all : ∀ m : Fin 0x20, readHex? (hexDigits 4 m) = some m.val := by decide
  exact all ⟨n, h⟩

theorem ofUnit_char {c : Char} (h : c.toNat < 0x20) : Piece.ofUnit c.toNat = .char c := by
  rw [Piece.ofUnit, if_neg (by omega), if_neg (by omega), Char.ofNat_toNat]

/-- A control character is read back from its code. -/
theorem pieces_code {c : Char} (h : c.toNat < 0x20) (rest : List Char) :
    pieces ('\\' :: 'u' :: hexDigits 4 c.toNat ++ rest) =
      (pieces rest).map fun (found, rest) => (.char c :: found, rest) := by
  have unit := readHex?_hexDigits h
  have shape : hexDigits 4 c.toNat = [hexDigit (c.toNat / 16 / 16 / 16 % 16),
      hexDigit (c.toNat / 16 / 16 % 16), hexDigit (c.toNat / 16 % 16), hexDigit (c.toNat % 16)] :=
  rfl
  rw [shape] at unit ⊢
  show pieces ('\\' :: 'u' :: _ :: _ :: _ :: _ :: rest) = _
  rw [pieces, unit]
  simp only [Option.bind_eq_bind, Option.bind_some, ofUnit_char h]
  cases pieces rest <;> rfl

/-- A character that stands for itself is read back. -/
theorem pieces_self {c : Char} (quote : c ≠ '"') (backslash : c ≠ '\\') (h : ¬ c.toNat < 0x20)
    (rest : List Char) :
    pieces (c :: rest) = (pieces rest).map fun (found, rest) => (.char c :: found, rest) := by
  rw [pieces]
  · simp only [backslash, h]
    cases pieces rest <;> rfl
  · exact quote
  · rintro _ _ _ _ _ rfl
    exact absurd rfl backslash
  · rintro _ _ rfl
    exact absurd rfl backslash

/-- Each character is read back from its written form. -/
theorem pieces_escape (c : Char) (rest : List Char) :
    pieces (escape c ++ rest) =
      (pieces rest).map fun (found, rest) => (.char c :: found, rest) := by
  have letter {e : Char} (unescapes : unescape? e = some c) (notCode : e ≠ 'u') :
      pieces ('\\' :: e :: rest) =
        (pieces rest).map fun (found, rest) => (.char c :: found, rest) := by
    rw [pieces]
    · rw [unescapes]
      cases pieces rest <;> rfl
    · rintro _ _ _ _ _ rfl
      exact absurd rfl notCode
  unfold escape
  split
  · next mark =>
    rcases mark with rfl | rfl <;> exact letter rfl (by decide)
  split
  · next eq => subst eq; exact letter rfl (by decide)
  split
  · next eq => subst eq; exact letter rfl (by decide)
  split
  · next eq => subst eq; exact letter rfl (by decide)
  split
  · next eq => subst eq; exact letter rfl (by decide)
  split
  · next eq => subst eq; exact letter rfl (by decide)
  split
  · next control => exact pieces_code control rest
  · next unmarked _ _ _ _ _ free =>
    exact pieces_self (fun e => unmarked (.inl e)) (fun e => unmarked (.inr e)) free rest

theorem pieces_escapes (cs rest : List Char) :
    pieces (cs.flatMap escape ++ '"' :: rest) = some (cs.map .char, rest) := by
  induction cs with
  | nil => rfl
  | cons c cs ih => rw [List.flatMap_cons, List.append_assoc, pieces_escape, ih]; rfl

theorem assemble_chars (cs : List Char) : assemble (cs.map .char) = some cs := by
  induction cs with
  | nil => rfl
  | cons c cs ih => rw [List.map_cons, assemble, ih]; rfl

/-- A string is read back after its opening quote. -/
theorem stringRest?_render (s : String) (rest : List Char) :
    stringRest? (s.toList.flatMap escape ++ '"' :: rest) = some (some s, rest) := by
  simp only [stringRest?, pieces_escapes, Option.map_some, assemble_chars, String.ofList_toList]

/-! ## Numbers -/

/-- What follows does not go on with a value: it is nothing, or starts with a
comma or a closing bracket or brace. -/
def Ends (rest : List Char) : Prop :=
  ∀ c tail, rest = c :: tail → c = ',' ∨ c = ']' ∨ c = '\x7d'

theorem ends_nil : Ends [] := fun _ _ h => by cases h

theorem ends_cons {c : Char} {rest : List Char} (h : c = ',' ∨ c = ']' ∨ c = '\x7d') :
    Ends (c :: rest) := fun _ _ eq => by cases eq; exact h

theorem Ends.takeWhile_isDigit {rest : List Char} (h : Ends rest) :
    rest.takeWhile isDigit = [] := by
  rcases rest with _ | ⟨c, tail⟩
  · rfl
  · rcases h c tail rfl with rfl | rfl | rfl <;> rfl

theorem Ends.dropWhile_isDigit {rest : List Char} (h : Ends rest) :
    rest.dropWhile isDigit = rest := by
  rcases rest with _ | ⟨c, tail⟩
  · rfl
  · rcases h c tail rfl with rfl | rfl | rfl <;> rfl

theorem Ends.fraction? {rest : List Char} (h : Ends rest) : fraction? rest = some (none, rest) := by
  rcases rest with _ | ⟨c, tail⟩
  · rfl
  · rcases h c tail rfl with rfl | rfl | rfl <;> rfl

theorem Ends.exponent? {rest : List Char} (h : Ends rest) : exponent? rest = some (none, rest) := by
  rcases rest with _ | ⟨c, tail⟩
  · rfl
  · rcases h c tail rfl with rfl | rfl | rfl <;> rfl

theorem wholePart?_decimal (n : Nat) {rest : List Char} (h : Ends rest) :
    wholePart? (decimal n ++ rest) = some (decimal n, rest) := by
  rcases Nat.eq_zero_or_pos n with rfl | pos
  · rw [decimal_zero]
    rfl
  · have digits (d : Char) (mem : d ∈ decimal n) : isDigit d = true :=
      List.all_eq_true.mp (all_isDigit_decimal n) d mem
    have taken : (decimal n ++ rest).takeWhile isDigit = _ := List.takeWhile_append_of_pos digits
    have dropped : (decimal n ++ rest).dropWhile isDigit = _ := List.dropWhile_append_of_pos digits
    rw [h.takeWhile_isDigit, List.append_nil] at taken
    rw [h.dropWhile_isDigit] at dropped
    obtain ⟨c, tail, eq, digit, nonzero⟩ := decimal_cons pos
    rw [eq, List.cons_append] at taken dropped ⊢
    rw [wholePart?, if_pos digit, taken, dropped]
    exact nonzero

theorem number?_decimal (n : Nat) {rest : List Char} (h : Ends rest) :
    number? (decimal n ++ rest) = some (.integer n, rest) := by
  unfold number?
  split
  next negative cs parts =>
  split at parts
  · next tail minus =>
    -- a digit is no sign
    obtain ⟨c, _, eq, digit⟩ := decimal_head n
    rw [eq] at minus
    cases minus
    cases digit
  · cases parts
    simp only [wholePart?_decimal n h, Option.bind_eq_bind, Option.bind_some, h.fraction?,
      h.exponent?, digitsValue_decimal, Bool.false_eq_true, false_and, ↓reduceIte]

theorem number?_negative {n : Nat} (pos : 0 < n) {rest : List Char} (h : Ends rest) :
    number? ('-' :: (decimal n ++ rest)) = some (.integer (-n), rest) := by
  simp only [number?, wholePart?_decimal n h, Option.bind_eq_bind, Option.bind_some, h.fraction?,
    h.exponent?, digitsValue_decimal, true_and, if_neg (Nat.ne_of_gt pos), ↓reduceIte]

/-- A whole number is read back. -/
theorem number?_decimalInt (n : Int) {rest : List Char} (h : Ends rest) :
    number? (decimalInt n ++ rest) = some (.integer n, rest) := by
  unfold decimalInt
  split
  · next negative =>
    rw [List.cons_append, number?_negative (by omega) h]
    congr 3
    omega
  · next nonnegative =>
    rw [number?_decimal _ h]
    congr 3
    omega

/-! ## Values -/

mutual

/-- Whether a value is written without loss. -/
def isPlain : Json → Bool
  | .null | .bool _ => true
  | .number (.integer n) => isHeldExactly n
  | .number (.decimal _ _ _) => false
  | .string s => s.isSome
  | .array xs => arePlain xs
  | .object ms => membersArePlain ms

/-- Whether every element is written without loss. -/
def arePlain : List Json → Bool
  | [] => true
  | x :: xs => isPlain x && arePlain xs

/-- Whether every key and member is written without loss. -/
def membersArePlain : List (Option String × Json) → Bool
  | [] => true
  | (key, x) :: ms => key.isSome && isPlain x && membersArePlain ms

end

theorem skipSpace_cons {c : Char} (h : isSpace c = false) (cs : List Char) :
    skipSpace (c :: cs) = c :: cs := by
  simp [skipSpace, h]

mutual

/-- How much fuel reads a value back. -/
def need : Json → Nat
  | .array xs => needElements xs + 1
  | .object ms => needMembers ms + 1
  | _ => 1

def needElements : List Json → Nat
  | [] => 0
  | x :: xs => max (need x) (needElements xs) + 1

def needMembers : List (Option String × Json) → Nat
  | [] => 0
  | (_, x) :: ms => max (need x) (needMembers ms) + 1

end

theorem ends_renderElements (xs : List Json) (rest : List Char) :
    Ends (renderElements xs ++ rest) := by
  cases xs <;> exact ends_cons (by simp)

theorem ends_renderMembers (ms : List (Option String × Json)) (rest : List Char) :
    Ends (renderMembers ms ++ rest) := by
  rcases ms with _ | ⟨⟨key, x⟩, ms⟩ <;> exact ends_cons (by simp)

theorem isSpace_of_isDigit {c : Char} (h : isDigit c) : isSpace c = false := by
  cases space : isSpace c with
  | false => rfl
  | true =>
    simp only [isSpace, Bool.or_eq_true, beq_iff_eq] at space
    rcases space with ((rfl | rfl) | rfl) | rfl <;> cases h

/-- A written value starts with no space and no closing bracket. -/
theorem render_head (x : Json) (plain : isPlain x) :
    ∃ c tail, render x = c :: tail ∧ isSpace c = false ∧ c ≠ ']' := by
  cases x with
  | null => exact ⟨_, _, rfl, rfl, by decide⟩
  | bool b => cases b <;> exact ⟨_, _, rfl, rfl, by decide⟩
  | number n =>
    cases n with
    | integer n =>
      obtain ⟨c, tail, eq, first⟩ := decimalInt_head n
      refine ⟨c, tail, (if_pos plain).trans eq, ?_⟩
      rcases first with rfl | digit
      · exact ⟨rfl, by decide⟩
      · exact ⟨isSpace_of_isDigit digit, by rintro rfl; cases digit⟩
    | decimal => cases plain
  | string s => exact ⟨_, _, rfl, rfl, by decide⟩
  | array xs => cases xs <;> exact ⟨_, _, rfl, rfl, by decide⟩
  | object ms => rcases ms with _ | ⟨⟨key, x⟩, ms⟩ <;> exact ⟨_, _, rfl, rfl, by decide⟩

theorem value?_number {c : Char} (first : c = '-' ∨ isDigit c) (fuel : Nat) (cs : List Char) :
    value? (fuel + 1) (c :: cs) = (number? (c :: cs)).map fun (n, rest) => (.number n, rest) := by
  have space : isSpace c = false := by
    rcases first with rfl | digit
    · rfl
    · exact isSpace_of_isDigit digit
  rw [value?, skipSpace_cons space]
  split
  · next eq =>
    cases eq
    exact absurd first (by decide)
  · next eq =>
    cases eq
    exact absurd first (by decide)
  · next eq =>
    cases eq
    exact absurd first (by decide)
  · next eq =>
    cases eq
    exact if_pos first
  · next eq => cases eq

theorem value?_array {c : Char} (space : isSpace c = false) (more : c ≠ ']') (fuel : Nat)
    (cs : List Char) : value? (fuel + 1) ('[' :: c :: cs) =
      (elements? fuel (c :: cs)).map fun (xs, rest) => (.array xs, rest) := by
  simp only [value?, skipSpace_cons (show isSpace '[' = false from rfl), skipSpace_cons space]
  split
  · next eq =>
    cases eq
    exact absurd rfl more
  · rfl

theorem value?_object (fuel : Nat) (cs : List Char) : value? (fuel + 1) ('\x7b' :: '"' :: cs) =
    (members? fuel ('"' :: cs)).map fun (ms, rest) => (.object ms, rest) := rfl

theorem value?_string (fuel : Nat) (s : String) (rest : List Char) :
    value? (fuel + 1) (renderString (some s) ++ rest) = some (.string (some s), rest) := by
  have eq : renderString (some s) ++ rest = '"' :: (s.toList.flatMap escape ++ '"' :: rest) := by
    simp [renderString]
  rw [eq]
  show (stringRest? _).map _ = _
  rw [stringRest?_render]
  rfl

mutual

theorem value?_render (x : Json) (plain : isPlain x) (fuel : Nat) (enough : need x ≤ fuel)
    {rest : List Char} (h : Ends rest) : value? fuel (render x ++ rest) = some (x, rest) := by
  match fuel, enough with
  | 0, enough => cases x <;> simp [need] at enough
  | fuel + 1, enough =>
  cases x with
  | null => rfl
  | bool b => cases b <;> rfl
  | number n =>
    cases n with
    | integer n =>
      have written : render (.number (.integer n)) = decimalInt n := if_pos plain
      obtain ⟨c, tail, eq, first⟩ := decimalInt_head n
      have read := number?_decimalInt n h
      rw [written]
      rw [eq, List.cons_append] at read ⊢
      rw [value?_number first, read]
      rfl
    | decimal => cases plain
  | string s =>
    cases s with
    | none => cases plain
    | some s => exact value?_string fuel s rest
  | array xs =>
    cases xs with
    | nil => rfl
    | cons x xs =>
      have read := elements?_render x xs plain fuel (by simpa [need] using enough) rest
      have plain : isPlain x ∧ arePlain xs := by simpa [isPlain, arePlain] using plain
      obtain ⟨c, tail, eq, space, more⟩ := render_head x plain.1
      have written : render (.array (x :: xs)) ++ rest =
          '[' :: (render x ++ (renderElements xs ++ rest)) := by simp [render]
      rw [written]
      rw [eq, List.cons_append] at read ⊢
      rw [value?_array space more, read]
      rfl
  | object ms =>
    rcases ms with _ | ⟨⟨key, x⟩, ms⟩
    · rfl
    · have read := members?_render key x ms plain fuel (by simpa [need] using enough) rest
      have written : render (.object ((key, x) :: ms)) ++ rest =
          '\x7b' :: (renderString key ++ ':' :: (render x ++ (renderMembers ms ++ rest))) := by
        simp [render]
      rw [written]
      rw [renderString, List.cons_append, List.cons_append] at read ⊢
      rw [value?_object, read]
      rfl
termination_by fuel

/-- The elements up to the closing bracket. -/
theorem elements?_render (x : Json) (xs : List Json) (plain : arePlain (x :: xs)) (fuel : Nat)
    (enough : needElements (x :: xs) ≤ fuel) (rest : List Char) :
    elements? fuel (render x ++ (renderElements xs ++ rest)) = some (x :: xs, rest) := by
  match fuel, enough with
  | 0, enough => simp [needElements] at enough
  | fuel + 1, enough =>
  simp only [needElements, Nat.add_le_add_iff_right, Nat.max_le] at enough
  simp only [arePlain, Bool.and_eq_true] at plain
  have first := value?_render x plain.1 fuel enough.1 (ends_renderElements xs rest)
  simp only [elements?, first, Option.bind_eq_bind, Option.bind_some]
  cases xs with
  | nil => rfl
  | cons y ys =>
    have others := elements?_render y ys plain.2 fuel enough.2 rest
    have written : renderElements (y :: ys) ++ rest =
        ',' :: (render y ++ (renderElements ys ++ rest)) := by simp [renderElements]
    rw [written]
    show (elements? fuel _).map _ = _
    rw [others]
    rfl
termination_by fuel

/-- The members up to the closing brace. -/
theorem members?_render (key : Option String) (x : Json) (ms : List (Option String × Json))
    (plain : membersArePlain ((key, x) :: ms)) (fuel : Nat)
    (enough : needMembers ((key, x) :: ms) ≤ fuel) (rest : List Char) :
    members? fuel (renderString key ++ ':' :: (render x ++ (renderMembers ms ++ rest))) =
      some ((key, x) :: ms, rest) := by
  match fuel, enough with
  | 0, enough => simp [needMembers] at enough
  | fuel + 1, bound =>
  simp only [needMembers, Nat.add_le_add_iff_right, Nat.max_le] at bound
  simp only [membersArePlain, Bool.and_eq_true] at plain
  obtain ⟨key, rfl⟩ := Option.isSome_iff_exists.mp plain.1.1
  have first := value?_render x plain.1.2 fuel bound.1 (ends_renderMembers ms rest)
  have written : renderString (some key) ++ ':' :: (render x ++ (renderMembers ms ++ rest)) =
      '"' :: (key.toList.flatMap escape ++
        '"' :: ':' :: (render x ++ (renderMembers ms ++ rest))) := by
    simp [renderString]
  rw [written]
  simp only [members?, skipSpace_cons (show isSpace '"' = false from rfl), stringRest?_render,
    Option.bind_eq_bind, Option.bind_some, skipSpace_cons (show isSpace ':' = false from rfl),
    first]
  rcases ms with _ | ⟨⟨key', y⟩, ys⟩
  · rfl
  · have others := members?_render key' y ys plain.2 fuel bound.2 rest
    have written : renderMembers ((key', y) :: ys) ++ rest =
        ',' :: (renderString key' ++ ':' :: (render y ++ (renderMembers ys ++ rest))) := by
      simp [renderMembers]
    rw [written]
    show (members? fuel _).map _ = _
    rw [others]
    rfl
termination_by fuel

end

/-! ## Texts -/

theorem length_render_pos {x : Json} (plain : isPlain x) : 1 ≤ (render x).length := by
  obtain ⟨c, tail, eq, -⟩ := render_head x plain
  rw [eq]
  simp

mutual

/-- A text is fuel enough for itself. -/
theorem need_le (x : Json) (plain : isPlain x) : need x ≤ (render x).length := by
  cases x with
  | null | bool | number | string => exact length_render_pos plain
  | array xs =>
    cases xs with
    | nil => simp [need, needElements, render]
    | cons x xs =>
      simp only [isPlain, arePlain, Bool.and_eq_true] at plain
      have first := need_le x plain.1
      have others := needElements_le xs plain.2
      simp only [need, needElements, render, List.cons_append, List.length_cons, List.length_append]
      omega
  | object ms =>
    rcases ms with _ | ⟨⟨key, x⟩, ms⟩
    · simp [need, needMembers, render]
    · simp only [isPlain, membersArePlain, Bool.and_eq_true] at plain
      have first := need_le x plain.1.2
      have others := needMembers_le ms plain.2
      simp only [need, needMembers, render, List.cons_append, List.append_assoc, List.length_cons,
        List.length_append]
      omega

theorem needElements_le (xs : List Json) (plain : arePlain xs) :
    needElements xs + 1 ≤ (renderElements xs).length := by
  cases xs with
  | nil => simp [needElements, renderElements]
  | cons x xs =>
    simp only [arePlain, Bool.and_eq_true] at plain
    have first := need_le x plain.1
    have others := needElements_le xs plain.2
    simp only [needElements, renderElements, List.cons_append, List.length_cons, List.length_append]
    omega

theorem needMembers_le (ms : List (Option String × Json)) (plain : membersArePlain ms) :
    needMembers ms + 1 ≤ (renderMembers ms).length := by
  rcases ms with _ | ⟨⟨key, x⟩, ms⟩
  · simp [needMembers, renderMembers]
  · simp only [membersArePlain, Bool.and_eq_true] at plain
    have first := need_le x plain.1.2
    have others := needMembers_le ms plain.2
    simp only [needMembers, renderMembers, List.cons_append, List.append_assoc, List.length_cons,
      List.length_append]
    omega

end

/-- A plain value is read back from its text. -/
theorem parse?_toText {x : Json} (plain : isPlain x) : parse? x.toText = some x := by
  have enough : need x ≤ 2 * (render x).length + 2 := by
    have := need_le x plain
    omega
  have read := value?_render x plain _ enough ends_nil
  rw [List.append_nil] at read
  simp only [parse?, toText, String.toList_ofList, read]
  rfl

end WalletLedger.Json
