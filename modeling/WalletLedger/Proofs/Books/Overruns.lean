import WalletLedger.Proofs.Books.Isolation
import WalletLedger.Proofs.Books.Views

/-!
# Differences that overrun

What a withdrawal leaves of a balance, and a purchase of a balance and a stock,
is computed without a check, after it was compared to be no less than nothing
(`remainders_nonneg`). So it can only be too great, and only where less than
nothing is moved (`Overruns.movesLess`). There, and nowhere else, a call aborts
(`respond_aborted_iff`). Where a movement is answered, the rows hold what it was
to leave (`Step.leftovers_eq`).
-/

namespace WalletLedger

open Memory

theorem Money.sub_eq_error_iff {a b : Money} {cause : Abort} :
    a.sub b = .error cause ↔ cause = .subtraction ∧ ¬ Fits (a.value - b.value) := by
  unfold sub sub?
  by_cases fits : Fits (a.value - b.value) <;> simp [fit?, fits, eq_comm]

theorem subtract_eq_error_iff {a b : Int64} {cause : Abort} :
    subtract a b = .error cause ↔ cause = .subtraction ∧ ¬ Fits (a.toInt - b.toInt) := by
  unfold subtract
  by_cases fits : Fits (a.toInt - b.toInt) <;> simp [fit?, fits, eq_comm]

theorem toInt_le_greatest (n : Int64) : n.toInt ≤ greatest := (fits_toInt n).2

theorem Money.value_le_greatest (m : Money) : m.value ≤ greatest := toInt_le_greatest m.cents

theorem not_fits_iff {n : Int} (nonneg : 0 ≤ n) : ¬ Fits n ↔ greatest < n := by
  rw [fits_iff_le nonneg, Int.not_le]

namespace Memory.Books

variable {how : Manner} {b b' : Books} {m : Movement}

/-- What a movement leaves of the balance, and then of the stock, exactly: the differences that
it takes once all comparisons are passed. -/
def remainders (b : Books) : Movement → List Int
  | .deposit _ _ => []
  | .withdraw user amount =>
    match b.wallet? user with
    | some w =>
      if amount.value ≤ w.balance.value then [w.balance.value - amount.value] else []
    | none => []
  | .purchase user id quantity =>
    match b.wallet? user, b.product? id with
    | some w, some p =>
      let cost := p.price.value * quantity.toInt
      if quantity.toInt ≤ p.stock.toInt ∧ Fits cost ∧ cost ≤ w.balance.value then
        [w.balance.value - cost, p.stock.toInt - quantity.toInt]
      else []
    | _, _ => []

/-- What is left of the balance, and of the stock, that a movement is about. -/
def leftovers (b : Books) : Movement → List Int
  | .deposit _ _ => []
  | .withdraw user _ => (b.wallet? user).toList.map (·.balance.value)
  | .purchase user id _ =>
    (b.wallet? user).toList.map (·.balance.value) ++ (b.product? id).toList.map (·.stock.toInt)

/-- All comparisons of a movement are passed, and what it leaves is too great. -/
def Overruns (b : Books) : Movement → Prop
  | .deposit _ _ => False
  | .withdraw user amount => ∃ w, b.wallet? user = some w ∧ amount.value ≤ w.balance.value ∧
      greatest < w.balance.value - amount.value
  | .purchase user id quantity => ∃ w p, b.wallet? user = some w ∧ b.product? id = some p ∧
      quantity.toInt ≤ p.stock.toInt ∧ Fits (p.price.value * quantity.toInt) ∧
      p.price.value * quantity.toInt ≤ w.balance.value ∧
      (greatest < w.balance.value - p.price.value * quantity.toInt ∨
        greatest < p.stock.toInt - quantity.toInt)

/-- Less than nothing is moved: of money, or of a product. -/
def MovesLess (b : Books) : Movement → Prop
  | .deposit _ _ => False
  | .withdraw _ amount => amount.value < 0
  | .purchase _ id quantity => ∃ p, b.product? id = some p ∧
      (p.price.value * quantity.toInt < 0 ∨ quantity.toInt < 0)

theorem remainders_nonneg (b : Books) (m : Movement) : ∀ n ∈ b.remainders m, 0 ≤ n := by
  cases m with
  | deposit user amount => exact List.forall_mem_nil _
  | withdraw user amount =>
    rw [remainders]
    split
    · split
      · simp; omega
      · exact List.forall_mem_nil _
    · exact List.forall_mem_nil _
  | purchase user id quantity =>
    rw [remainders]
    split
    · simp only
      split
      · simp; omega
      · exact List.forall_mem_nil _
    · exact List.forall_mem_nil _

theorem overruns_iff : b.Overruns m ↔ ∃ n ∈ b.remainders m, greatest < n := by
  cases m with
  | deposit user amount => simp [Overruns, remainders]
  | withdraw user amount =>
    rw [Overruns, remainders]
    rcases b.wallet? user with _ | w
    · simp
    · by_cases enough : amount.value ≤ w.balance.value <;> simp [enough]
  | purchase user id quantity =>
    rw [Overruns, remainders]
    rcases b.wallet? user with _ | w
    · simp
    rcases b.product? id with _ | p
    · simp
    simp only [Option.some.injEq]
    split
    · next passed => simp [passed]
    · next short =>
      refine iff_of_false ?_ (by simp)
      rintro ⟨_, _, rfl, rfl, inStock, fits, enough, -⟩
      exact short ⟨inStock, fits, enough⟩

theorem Overruns.movesLess (overrun : b.Overruns m) : b.MovesLess m := by
  cases m with
  | deposit user amount => exact overrun
  | withdraw user amount =>
    obtain ⟨w, -, -, great⟩ := overrun
    have := w.balance.value_le_greatest
    show amount.value < 0
    omega
  | purchase user id quantity =>
    obtain ⟨w, p, -, live, -, -, -, great⟩ := overrun
    have := w.balance.value_le_greatest
    have := toInt_le_greatest p.stock
    exact ⟨p, live, by omega⟩

/-- The same wallets and live products are found in two books. -/
structure FindsAlike (b b' : Books) : Prop where
  wallet : ∀ user, b'.wallet? user = b.wallet? user
  product : ∀ id, b'.product? id = b.product? id

namespace FindsAlike

variable (alike : b.FindsAlike b')
include alike

theorem overruns_iff : b'.Overruns m ↔ b.Overruns m := by
  cases m <;> simp only [Overruns, alike.wallet, alike.product]

theorem remainders_eq : b'.remainders m = b.remainders m := by
  cases m <;> simp only [remainders, alike.wallet, alike.product]

theorem leftovers_eq : b'.leftovers m = b.leftovers m := by
  cases m <;> simp only [leftovers, alike.wallet, alike.product]

end FindsAlike

/-! ## Where calls abort -/

section Aborts

variable {user id : String} {cause : Abort}

theorem deposit_not_aborted (amount : Money) :
    b.respond how (.deposit user amount) ≠ .error (.aborted cause) := by
  rw [respond]
  split
  · simp
  · split <;> simp

theorem withdraw_aborted_iff {amount : Money} :
    b.respond how (.withdraw user amount) = .error (.aborted cause) ↔
      cause = .subtraction ∧ b.Overruns (.withdraw user amount) := by
  rw [respond, Overruns]
  rcases b.wallet? user with _ | w
  · simp
  simp only [Option.some.injEq, exists_eq_left']
  by_cases short : w.balance < amount
  · simp [short, Int.not_le.mpr short]
  have enough : amount.value ≤ w.balance.value := Int.not_lt.mp short
  rw [if_neg short, ← not_fits_iff (by omega : 0 ≤ w.balance.value - amount.value)]
  rcases balanced : w.balance.sub amount with cause' | balance
  · obtain ⟨rfl, unfit⟩ := Money.sub_eq_error_iff.mp balanced
    simp [enough, unfit, eq_comm]
  · have fits : Fits (w.balance.value - amount.value) :=
      Money.sub_eq_ok_iff.mp balanced ▸ fits_toInt balance.cents
    simp [fits]

theorem purchase_aborted_iff {quantity : Int64} :
    b.respond how (.purchase user id quantity) = .error (.aborted cause) ↔
      cause = .subtraction ∧ b.Overruns (.purchase user id quantity) := by
  rw [respond, Overruns]
  rcases b.wallet? user with _ | w
  · simp
  rcases b.product? id with _ | p
  · simp
  simp only [Option.some.injEq, exists_and_left, exists_eq_left']
  by_cases scarce : p.stock.toInt < quantity.toInt
  · simp [scarce, Int.not_le.mpr scarce]
  rw [if_neg scarce]
  rcases priced : p.price.mul? quantity with _ | total
  · simp [Money.mul?_eq_none_iff.mp priced]
  have cost := Money.mul?_eq_some_iff.mp priced
  have fitting : Fits (p.price.value * quantity.toInt) := cost ▸ fits_toInt total.cents
  rw [← cost] at fitting ⊢
  simp only
  by_cases short : w.balance < total
  · simp [short, Int.not_le.mpr short]
  have enough : total.value ≤ w.balance.value := Int.not_lt.mp short
  have inStock : quantity.toInt ≤ p.stock.toInt := Int.not_lt.mp scarce
  rw [if_neg short, ← not_fits_iff (by omega : 0 ≤ w.balance.value - total.value),
    ← not_fits_iff (by omega : 0 ≤ p.stock.toInt - quantity.toInt)]
  rcases balanced : w.balance.sub total with cause' | balance
  · obtain ⟨rfl, unfit⟩ := Money.sub_eq_error_iff.mp balanced
    simp [inStock, fitting, enough, unfit, eq_comm]
  have fits : Fits (w.balance.value - total.value) :=
    Money.sub_eq_ok_iff.mp balanced ▸ fits_toInt balance.cents
  rcases left : subtract p.stock quantity with cause' | stock
  · obtain ⟨rfl, unfit⟩ := subtract_eq_error_iff.mp left
    simp [inStock, fitting, enough, unfit, eq_comm]
  · have stocked : Fits (p.stock.toInt - quantity.toInt) :=
      subtract_eq_ok_iff.mp left ▸ fits_toInt stock
    simp [fits, stocked]

/-- A call aborts exactly if it is a movement that overruns. -/
theorem respond_aborted_iff {call : StoreCall} : b.respond how call = .error (.aborted cause) ↔
    cause = .subtraction ∧ ∃ m, call.movement? = some m ∧ b.Overruns m := by
  by_cases reads : call.isRead
  · have unmoved : call.movement? = none := by cases call <;> first | rfl | cases reads
    simp [respond_read reads, unmoved]
  cases call with
  | createWallet user =>
    rw [respond]
    split <;> simp [StoreCall.movement?]
  | insertProduct fields => simp [respond, StoreCall.movement?]
  | updateProduct id fields =>
    rw [respond]
    split <;> simp [StoreCall.movement?]
  | deleteProduct id =>
    rw [respond]
    split <;> simp [StoreCall.movement?]
  | deposit user amount => simp [deposit_not_aborted, StoreCall.movement?, Overruns]
  | withdraw user amount => simp [withdraw_aborted_iff, StoreCall.movement?]
  | purchase user id quantity => simp [purchase_aborted_iff, StoreCall.movement?]
  | _ => exact absurd rfl reads

end Aborts

/-! ## What answered movements leave -/

theorem product?_setStock {id : String} {p : Product} (live : b.product? id = some p)
    (stock : Int64) (time : Timestamp) :
    (b.setStock id stock time).product? id = some { p with stock, updatedAt := time } := by
  obtain ⟨a, found, rfl⟩ := Option.map_eq_some_iff.mp live
  obtain ⟨there, alive⟩ := Option.filter_eq_some_iff.mp found
  have own : a.product.id = id := by simpa using List.find?_some there
  have written : (b.setStock id stock time).article? id =
      some { a with product := { a.product with stock, updatedAt := time } } := by
    unfold article? setStock setArticle
    have selects : ((fun a : Article => a.product.id == id) ∘ fun a =>
        if a.product.id = id then { a with product := { a.product with stock, updatedAt := time } }
        else a) = fun a => a.product.id == id := by
      funext a
      by_cases same : a.product.id = id <;> simp [same]
    rw [List.find?_map, selects, show b.articles.find? _ = some a from there]
    simp [own]
  simp [product?, written, Option.filter, alive]

/-- The rows that a movement is about hold what it was to leave, which fits. -/
theorem Step.leftovers_eq {reply : Reply} (step : Step b m.call reply b') :
    b'.leftovers m = b.remainders m := by
  rcases m with ⟨user, amount⟩ | ⟨user, amount⟩ | ⟨user, id, quantity⟩
  · rfl
  · cases step with
    | read reads => exact absurd reads Bool.false_ne_true
    | @withdraw _ _ balance w holder enough exact =>
      have compared : amount.value ≤ w.balance.value := enough
      simp [leftovers, remainders, wallet?_post holder, holder, compared, exact]
  · cases step with
    | read reads => exact absurd reads Bool.false_ne_true
    | @purchase _ _ _ stock total balance w p look holder live inStock priced enough exact left =>
      have compared : p.price.value * quantity.toInt ≤ w.balance.value := priced ▸ enough
      have fits : Fits (p.price.value * quantity.toInt) := priced ▸ fits_toInt total.cents
      have paid : ((b.post user w.id balance (.purchase id quantity total) (look + 1)).setStock id
          stock (b.instant look)).wallet? user =
        some { w with balance, updatedAt := b.next.time } :=
        wallet?_post holder balance (.purchase id quantity total) (look + 1)
      have sold : ((b.post user w.id balance (.purchase id quantity total) (look + 1)).setStock id
          stock (b.instant look)).product? id =
        some { p with stock, updatedAt := b.instant look } :=
        product?_setStock live _ _
      simp [leftovers, remainders, paid, sold, holder, live, inStock, fits, compared, exact, left,
        priced]

end Memory.Books

end WalletLedger
