/-!
# Decimal numerals

Reading and writing whole numbers in ASCII decimal digits. A numeral that is
read has an optional sign and at least one digit, nothing else, and its value
has to lie in the range asked for. `digitsValue` undoes `decimal`
(`digitsValue_decimal`).
-/

namespace WalletLedger.Text

/-- The value of an ASCII digit. -/
def digitValue (c : Char) : Nat :=
  c.toNat - '0'.toNat

/-- The ASCII digit of a number below ten. -/
def digitChar (d : Nat) : Char :=
  Char.ofNat ('0'.toNat + d)

/-- Whether a character is one of the ten ASCII digits. -/
def isDigit (c : Char) : Bool :=
  '0' ≤ c && c ≤ '9'

/-- The number that a run of digits names, most significant first. -/
def digitsValue (cs : List Char) : Nat :=
  cs.foldl (fun n c => 10 * n + digitValue c) 0

/-- The number named by a text of one or more digits. -/
def readDigits? (cs : List Char) : Option Nat :=
  if cs ≠ [] ∧ cs.all isDigit then some (digitsValue cs) else none

/-- The number named by digits after an optional plus sign, when it is below `bound`. -/
def readNat? (bound : Nat) (s : String) : Option Nat :=
  let digits := match s.toList with
    | '+' :: cs => cs
    | cs => cs
  (readDigits? digits).filter (· < bound)

/-- The number named by digits after an optional sign, when it is at least
`low` and at most `high`. -/
def readInt? (low high : Int) (s : String) : Option Int :=
  let value : Option Int := match s.toList with
    | '+' :: cs => (readDigits? cs).map fun n => (n : Int)
    | '-' :: cs => (readDigits? cs).map fun n => -(n : Int)
    | cs => (readDigits? cs).map fun n => (n : Int)
  value.filter fun n => low ≤ n && n ≤ high

/-- The texts that name a whole number: one or more digits after an optional sign. -/
inductive Numeral : List Char → Int → Prop
  | unsigned {digits : List Char} (nonempty : digits ≠ []) (all : digits.all isDigit) :
    Numeral digits (digitsValue digits)
  | plus {digits : List Char} (nonempty : digits ≠ []) (all : digits.all isDigit) :
    Numeral ('+' :: digits) (digitsValue digits)
  | minus {digits : List Char} (nonempty : digits ≠ []) (all : digits.all isDigit) :
    Numeral ('-' :: digits) (-(digitsValue digits : Int))

/-- The texts that name a number: one or more digits after an optional plus sign. -/
inductive Unsigned : List Char → Nat → Prop
  | bare {digits : List Char} (nonempty : digits ≠ []) (all : digits.all isDigit) :
    Unsigned digits (digitsValue digits)
  | plus {digits : List Char} (nonempty : digits ≠ []) (all : digits.all isDigit) :
    Unsigned ('+' :: digits) (digitsValue digits)

/-- The digits of a number, most significant first, without leading zeros. -/
def decimal (n : Nat) : List Char :=
  if n < 10 then [digitChar n] else decimal (n / 10) ++ [digitChar (n % 10)]

/-- The digits of a whole number, after a minus sign when it is negative. -/
def decimalInt (n : Int) : List Char :=
  if n < 0 then '-' :: decimal n.natAbs else decimal n.natAbs

/-- The digits of a number, padded with zeros on the left to a least width. -/
def padded (width n : Nat) : List Char :=
  List.replicate (width - (decimal n).length) '0' ++ decimal n

/-- The text of a number in decimal digits. -/
def ofNat (n : Nat) : String :=
  String.ofList (decimal n)

/-- The text of a whole number in decimal digits. -/
def ofInt (n : Int) : String :=
  String.ofList (decimalInt n)

/-! ## Writing, then reading -/

theorem digitValue_digitChar {d : Nat} (h : d < 10) : digitValue (digitChar d) = d := by
  have all : ∀ e : Fin 10, digitValue (digitChar e) = e.val := by decide
  exact all ⟨d, h⟩

theorem isDigit_digitChar {d : Nat} (h : d < 10) : isDigit (digitChar d) = true := by
  have all : ∀ e : Fin 10, isDigit (digitChar e) = true := by decide
  exact all ⟨d, h⟩

theorem digitsValue_append_singleton (cs : List Char) (c : Char) :
    digitsValue (cs ++ [c]) = 10 * digitsValue cs + digitValue c := by
  simp [digitsValue, List.foldl_append]

theorem digitsValue_decimal (n : Nat) : digitsValue (decimal n) = n := by
  induction n using Nat.strongRecOn with
  | ind n ih =>
    rw [decimal]
    split
    · next h => simp [digitsValue, digitValue_digitChar h]
    · next h =>
      rw [digitsValue_append_singleton, ih (n / 10) (by omega),
        digitValue_digitChar (Nat.mod_lt n (by decide))]
      omega

theorem decimal_ne_nil (n : Nat) : decimal n ≠ [] := by
  rw [decimal]; split <;> simp

theorem all_isDigit_decimal (n : Nat) : (decimal n).all isDigit = true := by
  induction n using Nat.strongRecOn with
  | ind n ih =>
    rw [decimal]
    split
    · next h => simp [isDigit_digitChar h]
    · next h =>
      simp only [List.all_append, ih (n / 10) (by omega), List.all_cons, List.all_nil,
        isDigit_digitChar (Nat.mod_lt n (by decide : 0 < 10)), Bool.and_self]

/-! ## Reading -/

theorem readDigits?_eq_some_iff {cs : List Char} {n : Nat} :
    readDigits? cs = some n ↔ cs ≠ [] ∧ cs.all isDigit ∧ digitsValue cs = n := by
  unfold readDigits?
  split
  · next h => simp [h.1, h.2]
  · next h =>
    simp only [reduceCtorEq, false_iff]
    exact fun ⟨nonempty, all, _⟩ => h ⟨nonempty, all⟩

/-- A text is read as a number exactly when it names the number and the number
lies in the range. -/
theorem readInt?_eq_some_iff {low high n : Int} {s : String} :
    readInt? low high s = some n ↔ Numeral s.toList n ∧ low ≤ n ∧ n ≤ high := by
  have signed {cs : List Char} {f : Int → Int} :
      (do let m ← readDigits? cs; pure (m : Int) : Option Int).map f = some n ↔
        cs ≠ [] ∧ cs.all isDigit ∧ f (digitsValue cs) = n := by
    simp [readDigits?_eq_some_iff, Option.bind_eq_some_iff, and_assoc]
  unfold readInt?
  simp only [Option.filter_eq_some_iff, Bool.and_eq_true, decide_eq_true_eq]
  refine and_congr_left fun _ => ?_
  split
  · next cs eq =>
    rw [signed, eq]
    refine ⟨fun ⟨nonempty, all, h⟩ => h ▸ .plus nonempty all, fun h => ?_⟩
    cases h with
    | unsigned _ all => simp [isDigit] at all
    | plus nonempty all => exact ⟨nonempty, all, rfl⟩
  · next cs eq =>
    rw [signed, eq]
    refine ⟨fun ⟨nonempty, all, h⟩ => h ▸ .minus nonempty all, fun h => ?_⟩
    cases h with
    | unsigned _ all => simp [isDigit] at all
    | minus nonempty all => exact ⟨nonempty, all, rfl⟩
  · next cs noPlus noMinus =>
    rw [signed]
    refine ⟨fun ⟨nonempty, all, h⟩ => h ▸ .unsigned nonempty all, fun h => ?_⟩
    generalize s.toList = cs at h noPlus noMinus
    cases h with
    | unsigned nonempty all => exact ⟨nonempty, all, rfl⟩
    | plus => exact absurd rfl (noPlus _)
    | minus => exact absurd rfl (noMinus _)

/-- A text is read as an unsigned number exactly when it names the number and the
number lies below the bound. -/
theorem readNat?_eq_some_iff {bound n : Nat} {s : String} :
    readNat? bound s = some n ↔ Unsigned s.toList n ∧ n < bound := by
  unfold readNat?
  simp only [Option.filter_eq_some_iff, decide_eq_true_eq]
  refine and_congr_left fun _ => ?_
  split
  · next cs eq =>
    rw [readDigits?_eq_some_iff, eq]
    refine ⟨fun ⟨nonempty, all, value⟩ => value ▸ .plus nonempty all, fun h => ?_⟩
    cases h with
    | bare _ all => simp [isDigit] at all
    | plus nonempty all => exact ⟨nonempty, all, rfl⟩
  · next noPlus =>
    rw [readDigits?_eq_some_iff]
    refine ⟨fun ⟨nonempty, all, value⟩ => value ▸ .bare nonempty all, fun h => ?_⟩
    generalize s.toList = cs at h noPlus
    cases h with
    | bare nonempty all => exact ⟨nonempty, all, rfl⟩
    | plus => exact absurd rfl (noPlus _)

/-- A text names one number at most. -/
theorem Unsigned.unique {cs : List Char} {m n : Nat} (h : Unsigned cs m) (h' : Unsigned cs n) :
    m = n := by
  have read {k : Nat} (names : Unsigned cs k) (below : k < m + n + 1) :
      readNat? (m + n + 1) (String.ofList cs) = some k :=
    readNat?_eq_some_iff.mpr ⟨by rwa [String.toList_ofList], below⟩
  exact Option.some.inj ((read h (by omega)).symm.trans (read h' (by omega)))

/-- A text names one whole number at most. -/
theorem Numeral.unique {cs : List Char} {m n : Int} (h : Numeral cs m) (h' : Numeral cs n) :
    m = n := by
  have read {k : Int} (names : Numeral cs k) (low : min m n ≤ k) (high : k ≤ max m n) :
      readInt? (min m n) (max m n) (String.ofList cs) = some k :=
    readInt?_eq_some_iff.mpr ⟨by rwa [String.toList_ofList], low, high⟩
  exact Option.some.inj ((read h (Int.min_le_left _ _) (Int.le_max_left _ _)).symm.trans
    (read h' (Int.min_le_right _ _) (Int.le_max_right _ _)))

/-! ## First digits and lengths -/

theorem digitValue_lt {c : Char} (h : isDigit c) : digitValue c < 10 := by
  simp only [isDigit, Bool.and_eq_true, decide_eq_true_eq] at h
  have last : c.toNat ≤ '9'.toNat := UInt32.le_iff_toNat_le.mp h.2
  have nine : '9'.toNat = '0'.toNat + 9 := rfl
  unfold digitValue
  omega

/-- A run of digits is less than the power of ten of its length. -/
theorem digitsValue_lt {cs : List Char} (h : cs.all isDigit) :
    digitsValue cs < Nat.pow 10 cs.length := by
  generalize length : cs.length = n
  induction n generalizing cs with
  | zero =>
    rw [List.length_eq_zero_iff.mp length]
    decide
  | succ n ih =>
    obtain ⟨ds, c, rfl⟩ : ∃ ds c, cs = ds ++ [c] :=
      ⟨_, _, (List.dropLast_concat_getLast (List.ne_nil_of_length_eq_add_one length)).symm⟩
    simp only [List.all_append, List.all_cons, List.all_nil, Bool.and_true,
      Bool.and_eq_true] at h
    have last := digitValue_lt h.2
    have before := ih h.1 (by simpa using length)
    rw [digitsValue_append_singleton]
    show _ < Nat.pow 10 n * 10
    omega

/-- Digits that are followed by others count for more by the power of ten of their number. -/
theorem digitsValue_append (cs ds : List Char) :
    digitsValue (cs ++ ds) = digitsValue cs * Nat.pow 10 ds.length + digitsValue ds := by
  generalize length : ds.length = n
  induction n generalizing ds with
  | zero =>
    rw [List.length_eq_zero_iff.mp length, List.append_nil]
    exact (Nat.mul_one _).symm
  | succ n ih =>
    obtain ⟨ds, c, rfl⟩ : ∃ es c, ds = es ++ [c] :=
      ⟨_, _, (List.dropLast_concat_getLast (List.ne_nil_of_length_eq_add_one length)).symm⟩
    rw [← List.append_assoc, digitsValue_append_singleton, digitsValue_append_singleton,
      ih ds (by simpa using length)]
    show _ = _ * (Nat.pow 10 n * 10) + _
    rw [← Nat.mul_assoc]
    omega

theorem decimal_zero : decimal 0 = ['0'] := by rw [decimal]; rfl

/-- A number but zero does not start with a zero. -/
theorem decimal_cons {n : Nat} (pos : 0 < n) :
    ∃ c tail, decimal n = c :: tail ∧ isDigit c = true ∧ c ≠ '0' := by
  induction n using Nat.strongRecOn with
  | ind n ih =>
    rw [decimal]
    split
    · next small =>
      refine ⟨_, _, rfl, isDigit_digitChar small, fun zero => ?_⟩
      have value := digitValue_digitChar small
      rw [zero] at value
      exact absurd (show 0 = n from value) (by omega)
    · obtain ⟨c, tail, eq, digit, nonzero⟩ := ih (n / 10) (by omega) (by omega)
      exact ⟨c, _, by rw [eq]; rfl, digit, nonzero⟩

theorem decimal_head (n : Nat) : ∃ c tail, decimal n = c :: tail ∧ isDigit c = true := by
  rcases Nat.eq_zero_or_pos n with rfl | pos
  · exact ⟨'0', [], decimal_zero, rfl⟩
  · obtain ⟨c, tail, eq, digit, -⟩ := decimal_cons pos
    exact ⟨c, tail, eq, digit⟩

theorem decimalInt_head (n : Int) :
    ∃ c tail, decimalInt n = c :: tail ∧ (c = '-' ∨ isDigit c) := by
  unfold decimalInt
  split
  · exact ⟨_, _, rfl, .inl rfl⟩
  · obtain ⟨c, tail, eq, digit⟩ := decimal_head n.natAbs
    exact ⟨c, tail, eq, .inr digit⟩

theorem length_decimal_le {n width : Nat} (h : n < Nat.pow 10 (width + 1)) :
    (decimal n).length ≤ width + 1 := by
  induction width generalizing n with
  | zero =>
    rw [decimal, if_pos (show n < 10 from h)]
    exact Nat.le_refl 1
  | succ width ih =>
    rw [decimal]
    split
    · exact Nat.le_add_left 1 _
    · rw [List.length_append]
      exact Nat.add_le_add_right (ih ((Nat.div_lt_iff_lt_mul (by decide)).mpr h)) 1

theorem length_padded {n width : Nat} (h : n < Nat.pow 10 (width + 1)) :
    (padded (width + 1) n).length = width + 1 := by
  have := length_decimal_le h
  rw [padded, List.length_append, List.length_replicate]
  omega

theorem digitsValue_padded (width n : Nat) : digitsValue (padded width n) = n := by
  have zeros (k : Nat) : digitsValue (List.replicate k '0' ++ decimal n) = n := by
    induction k with
    | zero => exact digitsValue_decimal n
    | succ k ih => exact ih
  exact zeros _

theorem isDigit_of_mem_padded {width n : Nat} {c : Char} (h : c ∈ padded width n) : isDigit c := by
  rcases List.mem_append.mp h with zero | digit
  · rw [List.eq_of_mem_replicate zero]
    rfl
  · exact List.all_eq_true.mp (all_isDigit_decimal n) c digit

theorem padded_ne_nil (width n : Nat) : padded width n ≠ [] :=
  fun nil => decimal_ne_nil n (List.append_eq_nil_iff.mp nil).2

end WalletLedger.Text
