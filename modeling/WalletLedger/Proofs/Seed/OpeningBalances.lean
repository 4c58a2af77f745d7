import WalletLedger.Proofs.Amounts
import WalletLedger.Proofs.Books.Isolation
import WalletLedger.Proofs.Regularity
import WalletLedger.Proofs.Services.Movements
import WalletLedger.Seed

/-!
# Opening balances

An opening balance is read from a text exactly if that is, but for blanks around it, an
optional plus sign and digits that name a number of units above zero whose cents are not too
many (`readBalance_eq_ok_iff`); a balance that is refused is refused for what the text says
(`Explains`). What was read is so many units and no cents, prints as that, and goes into every
empty wallet (`opening_balances_are_read`).
-/

namespace WalletLedger

open Memory Database

/-! ## Reading -/

namespace Seed

open Text

/-- The error says what is wrong with the text of a balance. -/
def BalanceError.Explains (raw : String) : BalanceError → Prop
  | .notANumber text => text = raw ∧ ∀ n, Numeral (trim raw.toList) n → ¬ Fits n
  | .notPositive n => Numeral (trim raw.toList) n ∧ n ≤ 0
  | .tooLarge n => Numeral (trim raw.toList) n ∧ greatest / 100 < n

theorem readWord_eq_some_iff {raw : String} {n : Int} :
    readInt? Int64.minValue.toInt Int64.maxValue.toInt (strip raw) = some n ↔
      Numeral (trim raw.toList) n ∧ Fits n := by
  rw [readInt?_eq_some_iff, strip, String.toList_ofList]
  exact Iff.rfl

/-- The cents of a number of units above zero fit unless it is too great. -/
theorem fits_cents_iff {n : Int} (positive : 0 < n) : Fits (n * 100) ↔ n ≤ greatest / 100 := by
  rw [fits_iff_le (by omega)]
  unfold greatest
  omega

theorem readBalance_of_ok {raw : String} {m : Money} (read : readBalance raw = .ok m) :
    ∃ n, Numeral (trim raw.toList) n ∧ 0 < n ∧ n ≤ greatest / 100 ∧ m.value = n * 100 := by
  unfold readBalance at read
  split at read
  · cases read
  · next n number =>
    split at read
    · cases read
    · next above =>
      split at read
      · next cents fits =>
        cases read
        have value := fit?_eq_some_iff.mp fits
        have fits : Fits (n * 100) := value ▸ fits_toInt cents
        exact ⟨n, (readWord_eq_some_iff.mp number).1, by omega,
          (fits_cents_iff (by omega)).mp fits, value⟩
      · cases read

theorem explains_of_error {raw : String} {e : BalanceError} (refused : readBalance raw = .error e) :
    e.Explains raw := by
  unfold readBalance at refused
  split at refused
  · next none =>
    cases refused
    refine ⟨rfl, fun n names fits => ?_⟩
    rw [readWord_eq_some_iff.mpr ⟨names, fits⟩] at none
    cases none
  · next n number =>
    have names := (readWord_eq_some_iff.mp number).1
    split at refused
    · next below =>
      cases refused
      exact ⟨names, below⟩
    · next above =>
      split at refused
      · cases refused
      · next unfit =>
        cases refused
        have tooMany := mt (fits_cents_iff (by omega)).mpr (fit?_eq_none_iff.mp unfit)
        exact ⟨names, by omega⟩

/-- A text that names a number above zero does so without a minus sign. -/
theorem unsigned_iff_numeral {cs : List Char} {v : Nat} (positive : 0 < v) :
    Unsigned cs v ↔ Numeral cs v := by
  refine ⟨fun h => ?_, fun h => ?_⟩
  · cases h with
    | bare nonempty all => exact .unsigned nonempty all
    | plus nonempty all => exact .plus nonempty all
  · generalize value : (v : Int) = n at h
    cases h with
    | unsigned nonempty all => exact Int.ofNat_inj.mp value ▸ .bare nonempty all
    | plus nonempty all => exact Int.ofNat_inj.mp value ▸ .plus nonempty all
    | minus => omega

/-- A balance is read from exactly the texts that name a number of units above zero whose cents
are not too many, and is so many units. -/
theorem readBalance_eq_ok_iff {raw : String} {m : Money} : readBalance raw = .ok m ↔
    ∃ v : Nat, Unsigned (trim raw.toList) v ∧ 1 ≤ v ∧ (v : Int) ≤ greatest / 100 ∧
      m.value = 100 * v := by
  constructor
  · intro read
    obtain ⟨n, names, above, atMost, value⟩ := readBalance_of_ok read
    obtain ⟨v, rfl⟩ := Int.eq_ofNat_of_zero_le (Int.le_of_lt above)
    exact ⟨v, (unsigned_iff_numeral (by omega)).mpr names, by omega, atMost, by omega⟩
  · rintro ⟨v, names, positive, atMost, value⟩
    have numeral := (unsigned_iff_numeral positive).mp names
    rcases outcome : readBalance raw with e | m'
    · have explained := explains_of_error outcome
      cases e with
      | notANumber text =>
        refine absurd ?_ (explained.2 _ numeral)
        rw [fits_iff_le (by omega)]
        unfold greatest at atMost ⊢
        omega
      | notPositive n =>
        have same := explained.1.unique numeral
        have below := explained.2
        omega
      | tooLarge n =>
        have same := explained.1.unique numeral
        have above := explained.2
        omega
    · obtain ⟨n, names', -, -, value'⟩ := readBalance_of_ok outcome
      have same := names'.unique numeral
      exact congrArg Except.ok (Money.ext_value (by omega))

end Seed

/-- Whole units print as their number, without a sign, and no cents. -/
theorem Money.text_of_units {m : Money} {v : Nat} (units : m.value = 100 * v) :
    m.text = Text.ofNat v ++ ".00" := by
  have major : m.major = v := by
    rw [Money.major, units, Int.tdiv_eq_ediv_of_nonneg (by omega)]
    omega
  have minor : m.minor = 0 := by
    rw [Money.minor, units]
    omega
  have padded : Text.padded 2 0 = ['0', '0'] := by
    rw [Text.padded, Text.decimal_zero]
    rfl
  refine String.toList_inj.mp ?_
  rw [Money.toList_text, Money.sign, if_neg (by omega), major, minor, padded, String.toList_append,
    Text.ofNat, String.toList_ofList, Int.natAbs_natCast]
  rfl

/-! ## Depositing -/

theorem Money.zero_add? (m : Money) : zero.add? m = some m :=
  add?_eq_some_iff.mpr (Int.zero_add _).symm

namespace Memory.Books

variable {how : Manner} {b : Books} {user : String} {w : Wallet}

/-- Every amount goes into an empty wallet. -/
theorem respond_first_deposit (holder : b.wallet? user = some w) (empty : w.balance = .zero)
    (m : Money) : b.respond how (.deposit user m) =
      .ok (.entry (b.newEntry w.id (.deposit m) 1), b.post user w.id m (.deposit m) 1) := by
  rw [respond, holder]
  simp only [empty, Money.zero_add?]

/-- What is told of a user's wallet is told of one that is there, of a user who is named. -/
theorem holding_eq_ok_iff : b.holding user = .ok w ↔
    Text.isBlankText user = false ∧ ∃ own, b.wallet? user = some own ∧ b.joined own = w := by
  unfold holding Validation.userId
  rcases Text.isBlankText user
  · rcases b.wallet? user with _ | own
    · simp [Failure.ofCheck, bind, Except.bind]
    · simp [Failure.ofCheck, bind, Except.bind]
  · simp [Failure.ofCheck, bind, Except.bind]

end Memory.Books

/-- The services put an amount into every wallet that is empty: the answer is the entry of the
deposit, and the amount is the balance from then on. -/
def Services.FillsEmpty {S : Type} (s : Services (StateM (World S))) (m : Money) (w : World S) :
    Prop :=
  ∀ user, (s.serve (.balance user) w).1 = .ok (.ok (.money .zero)) →
    (∃ e, (s.serve (.deposit user m) w).1 = .ok (.created (.entry e)) ∧ e.kind = .deposit m) ∧
    (s.serve (.balance user) (s.serve (.deposit user m) w).2).1 = .ok (.ok (.money m))

section Fill

variable {S : Type} {how : Manner} {holds : S → Books → Prop} {s : Services (StateM (World S))}
  {tempo : Movement → Bool → Option Duration → Prop} {w : World S} {b : Books} {user : String}

/-- A balance is told of exactly the named users who have a wallet with it. -/
theorem tells_balance_iff (truthful : Truthful how holds s.store) (held : holds w.store b)
    (wf : b.WellFormed) {m : Money} :
    (s.serve (.balance user) w).1 = .ok (.ok (.money m)) ↔
      Text.isBlankText user = false ∧ ∃ own, b.wallet? user = some own ∧ own.balance = m := by
  have told : (s.serve (.balance user) w).1 =
      (b.holding user).map fun w => .ok (.money w.balance) := by
    show ((Outcome.map Reply.money <$> ((fun w => Outcome.ok w.balance) <$> s.findWallet user) :
      Attempt (StateM (World S)) _) w).1 = _
    rw [Attempt.map_apply, Attempt.map_apply, findWallet_apply truthful held wf]
    rcases b.holding user with e | w <;> rfl
  rw [told]
  constructor
  · intro same
    rcases held : b.holding user with e | w <;> rw [held] at same <;> cases same
    obtain ⟨named, own, holder, rfl⟩ := Books.holding_eq_ok_iff.mp held
    exact ⟨named, own, holder, rfl⟩
  · rintro ⟨named, own, holder, rfl⟩
    rw [Books.holding_eq_ok_iff.mpr ⟨named, own, holder, rfl⟩]
    rfl

/-- Services that are not late put every amount above zero into every empty wallet. -/
theorem fills_empty (regular : Regular how holds tempo s.store) (aside : s.cache.Aside)
    (inTime : ∀ {m answered late}, tempo m answered late → late = none)
    (held : holds w.store b) (wf : b.WellFormed) (inBounds : b.InBounds) {m : Money}
    (positive : 0 < m.value) : s.FillsEmpty m w := by
  intro user told
  have truthful := regular.toTruthful
  obtain ⟨named, own, holder, empty⟩ := (tells_balance_iff truthful held wf).mp told
  have sound : (Movement.deposit user m).flaw? = none := by
    simp [Movement.flaw?, Movement.user, named, positive]
  obtain ⟨late, timed, answers, left⟩ :=
    movement_comes regular aside held wf inBounds (.deposit user m)
  obtain rfl := inTime (timed sound)
  have responds : b.respond how (Movement.deposit user m).call = _ :=
    Books.respond_first_deposit holder empty m
  have outcome : b.fulfil how none (Movement.deposit user m).request =
      .ok (.created (.entry (b.newEntry own.id (.deposit m) 1)),
        b.post user own.id m (.deposit m) 1) := by
    rw [Books.fulfil_movement, Books.move, sound]
    show (b.respond how (Movement.deposit user m).call).map _ = _
    rw [responds]
    rfl
  rw [outcome] at answers left
  have wf' := (Books.respond_step responds).wellFormed wf
  exact ⟨⟨_, answers, rfl⟩, (tells_balance_iff truthful left wf').mpr
    ⟨named, _, Books.wallet?_post holder m (.deposit m) 1, rfl⟩⟩

end Fill

/-- After any requests the services put an amount into every empty wallet. -/
def Services.AlwaysFillsEmpty {S : Type} (s : Services (StateM (World S))) (m : Money)
    (start : World S) : Prop :=
  ∀ rs : List Request, s.FillsEmpty m (s.run rs start)

theorem memory_fills_empty {pace : Pace} (quick : pace.IsQuick) (cache : Cache (StateM Shelf))
    (limit : Duration) (users : List User) (supply : Supply) (shelf : Shelf) {m : Money}
    (positive : 0 < m.value) :
    Services.AlwaysFillsEmpty ⟨Memory.store pace, cache.map World.onShelf, limit⟩ m
      ⟨⟨.opening users supply, none⟩, shelf⟩ := by
  intro rs
  obtain ⟨b, held, solvent⟩ := Memory.run_solvent pace cache limit users supply shelf rs
  exact fills_empty (Memory.store_regular pace) (Cache.onShelf_aside cache)
    (fun timed => timed.trans (quick.lateness _)) held solvent.wellFormed solvent.inBounds positive

theorem database_fills_empty {deadline : Option Duration}
    (unhurried : Cutoff.ofDeadline deadline = none) {pool : Pool} (free : pool.IsFree)
    (cache : Cache (StateM Shelf)) (limit : Duration) (rows : List UserRow) (supply : Supply)
    (enforced : Bool) (shelf : Shelf) {m : Money} (positive : 0 < m.value) :
    Services.AlwaysFillsEmpty
      ⟨(Database.store deadline).map World.onStore, cache.map World.onShelf, limit⟩ m
      ⟨.opening rows supply [] enforced pool, shelf⟩ := by
  intro rs
  obtain ⟨b, held, solvent⟩ :=
    Database.run_solvent deadline free cache limit rows supply enforced shelf rs
  exact fills_empty (Database.store_regular deadline) (Cache.onShelf_aside cache)
    (fun timed => timed.trans (by rw [unhurried]; rfl)) held solvent.wellFormed solvent.inBounds
    positive

/-! ## Read and deposited -/

namespace Seed

open Text

/-- An opening balance is read from exactly the texts that are, but for blanks around them, an
optional plus sign and digits that name a number from one to a hundredth of the greatest number
of cents; every other text is refused for what it says. What is read is so many units, prints as
their number without a sign or leading zeros, and two zeros for the cents, and goes into every
empty wallet after any requests, over a memory store in which no fault is armed and nothing is
late, and over a database with a free pool, no guards and a deadline that is not reached. -/
theorem opening_balances_are_read (raw : String) :
    (∀ m, readBalance raw = .ok m ↔ ∃ v : Nat, Unsigned (trim raw.toList) v ∧
      1 ≤ v ∧ (v : Int) ≤ greatest / 100 ∧ m.value = 100 * v) ∧
    (∀ e, readBalance raw = .error e → e.Explains raw) ∧
    ∀ m, readBalance raw = .ok m →
      (∃ digits, IsUnpadded digits ∧ m.value = 100 * digitsValue digits ∧
        m.text = String.ofList digits ++ ".00") ∧
      (∀ {pace : Pace}, pace.IsQuick → ∀ (cache : Cache (StateM Shelf)) (limit : Duration)
        (users : List User) (supply : Supply) (shelf : Shelf),
        Services.AlwaysFillsEmpty ⟨Memory.store pace, cache.map World.onShelf, limit⟩ m
          ⟨⟨.opening users supply, none⟩, shelf⟩) ∧
      ∀ {deadline : Option Duration}, Cutoff.ofDeadline deadline = none →
        ∀ {pool : Pool}, pool.IsFree → ∀ (cache : Cache (StateM Shelf)) (limit : Duration)
        (rows : List UserRow) (supply : Supply) (enforced : Bool) (shelf : Shelf),
        Services.AlwaysFillsEmpty
          ⟨(Database.store deadline).map World.onStore, cache.map World.onShelf, limit⟩ m
          ⟨.opening rows supply [] enforced pool, shelf⟩ := by
  refine ⟨fun m => readBalance_eq_ok_iff, fun e => explains_of_error, fun m read => ?_⟩
  obtain ⟨v, -, atLeast, -, units⟩ := readBalance_eq_ok_iff.mp read
  have positive : 0 < m.value := by omega
  refine ⟨⟨decimal v, isUnpadded_decimal v, ?_, Money.text_of_units units⟩,
    fun quick cache limit users supply shelf =>
      memory_fills_empty quick cache limit users supply shelf positive,
    fun unhurried _ free cache limit rows supply enforced shelf =>
      database_fills_empty unhurried free cache limit rows supply enforced shelf positive⟩
  rw [digitsValue_decimal, units]

/-- Forty-two units between blanks, over either store with one user. -/
theorem opening_balance_of_forty_two :
    readBalance " +0042\u3000" = .ok ⟨4200⟩ ∧ (⟨4200⟩ : Money).text = "42.00" ∧
    readBalance "0" = .error (.notPositive 0) ∧
    Numeral (trim "0".toList) 0 ∧
    Services.AlwaysFillsEmpty ⟨Memory.store .unlimited, Cache.absent.map World.onShelf, ⟨0⟩⟩
      ⟨4200⟩ ⟨⟨.opening [ada] .start, none⟩, .empty⟩ ∧
    Services.AlwaysFillsEmpty
      ⟨(Database.store none).map World.onStore, Cache.absent.map World.onShelf, ⟨0⟩⟩ ⟨4200⟩
      ⟨.opening [⟨ada, false⟩] .start [] true ⟨4, ⟨0⟩, true, false⟩, .empty⟩ := by
  have read : readBalance " +0042\u3000" = .ok ⟨4200⟩ := by decide +kernel
  have refused : readBalance "0" = .error (.notPositive 0) := by decide +kernel
  obtain ⟨-, inMemory, inDatabase⟩ := (opening_balances_are_read " +0042\u3000").2.2 ⟨4200⟩ read
  exact ⟨read, by decide +kernel, refused, ((opening_balances_are_read "0").2.1 _ refused).1,
    inMemory Pace.unlimited_isQuick .absent ⟨0⟩ [ada] .start .empty,
    inDatabase rfl ⟨rfl, rfl⟩ .absent ⟨0⟩ [⟨ada, false⟩] .start true .empty⟩

end Seed

end WalletLedger
