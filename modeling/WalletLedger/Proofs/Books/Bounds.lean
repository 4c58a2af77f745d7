import WalletLedger.Proofs.Books.Respond

/-!
# Bounds

Nobody owes money, nothing is free or below an empty stock, and no entry moves
less than one cent or one unit: `InBounds` says so of books. A call that is
`Checked`, as the services check it, keeps books in bounds (`Step.inBounds`),
and no arithmetic stops it on books in bounds (`respond_ne_aborted`).
-/

namespace WalletLedger

theorem Money.le_iff {a b : Money} : a ≤ b ↔ a.value ≤ b.value := Iff.rfl

/-- What is left of a word when no more than it is taken away fits. -/
theorem subtract_ne_error {a b : Int64} (nonneg : 0 ≤ b.toInt) (le : b.toInt ≤ a.toInt)
    {cause : Abort} : subtract a b ≠ .error cause := by
  have ⟨low, high⟩ := fits_toInt a
  have ⟨_, _⟩ := fits_toInt b
  unfold subtract
  split
  · simp
  · next none_fits => exact absurd ⟨by omega, by omega⟩ (fit?_eq_none_iff.mp none_fits)

theorem Money.sub_ne_error {a b : Money} (nonneg : 0 ≤ b.value) (le : b.value ≤ a.value)
    {cause : Abort} : sub a b ≠ .error cause := by
  have ⟨low, high⟩ := fits_toInt a.cents
  have ⟨_, _⟩ := fits_toInt b.cents
  unfold sub sub? value
  split
  · simp
  · next none_fits =>
    refine absurd ?_ (fit?_eq_none_iff.mp (Option.map_eq_none_iff.mp none_fits))
    unfold value at nonneg le
    exact ⟨by omega, by omega⟩

/-- What the services make sure of before they ask a store. -/
def StoreCall.Checked : StoreCall → Prop
  | .deposit _ amount | .withdraw _ amount => 0 < amount.value
  | .purchase _ _ quantity => 0 < quantity.toInt
  | .insertProduct p | .updateProduct _ p => 0 < p.price.value ∧ 0 ≤ p.stock.toInt
  | _ => True

namespace Memory.Books

/-- Balances and stocks are not below zero; prices, amounts and quantities are above it. -/
structure InBounds (b : Books) : Prop where
  balances : ∀ w ∈ b.wallets, 0 ≤ w.balance.value
  prices : ∀ a ∈ b.articles, 0 < a.product.price.value
  stocks : ∀ a ∈ b.articles, 0 ≤ a.product.stock.toInt
  amounts : ∀ e ∈ b.entries, 0 < e.kind.amount.value
  quantities : ∀ e ∈ b.entries, ∀ q, e.kind.quantity? = some q → 0 < q.toInt

variable {b : Books} {user id : String}

namespace InBounds

theorem spend (h : b.InBounds) (ids looks : Nat) : (b.spend ids looks).InBounds :=
  ⟨h.balances, h.prices, h.stocks, h.amounts, h.quantities⟩

theorem setWallet (h : b.InBounds) {change : Wallet → Wallet}
    (sound : ∀ w ∈ b.wallets, w.userId = user → 0 ≤ (change w).balance.value) :
    (b.setWallet user change).InBounds := by
  refine ⟨fun w hw => ?_, h.prices, h.stocks, h.amounts, h.quantities⟩
  rcases mem_setWallet hw with ⟨v, hv, own, rfl⟩ | ⟨hw, -⟩
  · exact sound v hv own
  · exact h.balances w hw

theorem setArticle (h : b.InBounds) {change : Article → Article}
    (sound : ∀ a ∈ b.articles, a.product.id = id →
      0 < (change a).product.price.value ∧ 0 ≤ (change a).product.stock.toInt) :
    (b.setArticle id change).InBounds := by
  refine ⟨h.balances, fun a ha => ?_, fun a ha => ?_, h.amounts, h.quantities⟩
  · rcases mem_setArticle ha with ⟨c, hc, own, rfl⟩ | ⟨ha, -⟩
    · exact (sound c hc own).1
    · exact h.prices a ha
  · rcases mem_setArticle ha with ⟨c, hc, own, rfl⟩ | ⟨ha, -⟩
    · exact (sound c hc own).2
    · exact h.stocks a ha

theorem addWallet (h : b.InBounds) {w : Wallet} (sound : 0 ≤ w.balance.value) :
    (b.addWallet w).InBounds := by
  refine ⟨fun v hv => ?_, h.prices, h.stocks, h.amounts, h.quantities⟩
  rcases List.mem_append.mp hv with hv | hv
  · exact h.balances v hv
  · rw [List.mem_singleton.mp hv]
    exact sound

theorem addProduct (h : b.InBounds) {p : Product} (priced : 0 < p.price.value)
    (stocked : 0 ≤ p.stock.toInt) : (b.addProduct p).InBounds := by
  refine ⟨h.balances, fun a ha => ?_, fun a ha => ?_, h.amounts, h.quantities⟩
  · rcases List.mem_append.mp ha with ha | ha
    · exact h.prices a ha
    · rw [List.mem_singleton.mp ha]
      exact priced
  · rcases List.mem_append.mp ha with ha | ha
    · exact h.stocks a ha
    · rw [List.mem_singleton.mp ha]
      exact stocked

theorem addEntry (h : b.InBounds) {e : Entry} (amount : 0 < e.kind.amount.value)
    (quantity : ∀ q, e.kind.quantity? = some q → 0 < q.toInt) : (b.addEntry e).InBounds := by
  refine ⟨h.balances, h.prices, h.stocks, fun f hf => ?_, fun f hf => ?_⟩
  · rcases List.mem_append.mp hf with hf | hf
    · exact h.amounts f hf
    · rw [List.mem_singleton.mp hf]
      exact amount
  · rcases List.mem_append.mp hf with hf | hf
    · exact h.quantities f hf
    · rw [List.mem_singleton.mp hf]
      exact quantity

theorem post (h : b.InBounds) {balance : Money} {walletId : String} {kind : EntryKind}
    {look : Nat} (sound : 0 ≤ balance.value) (amount : 0 < kind.amount.value)
    (quantity : ∀ q, kind.quantity? = some q → 0 < q.toInt) :
    (b.post user walletId balance kind look).InBounds :=
  ((h.spend 1 (look + 1)).setWallet fun _ _ _ => sound).addEntry amount quantity

theorem setStock (h : b.InBounds) {stock : Int64} {time : Timestamp} (sound : 0 ≤ stock.toInt) :
    (b.setStock id stock time).InBounds :=
  h.setArticle fun a ha _ => ⟨h.prices a ha, sound⟩

/-- The balance of a found wallet is not below zero. -/
theorem balance (h : b.InBounds) {w : Wallet} (holder : b.wallet? user = some w) :
    0 ≤ w.balance.value :=
  h.balances w (wallet?_eq_some holder).1

/-- A live product has a price above zero and a stock not below. -/
theorem live (h : b.InBounds) {p : Product} (found : b.product? id = some p) :
    0 < p.price.value ∧ 0 ≤ p.stock.toInt :=
  ⟨h.prices _ (product?_eq_some found).1, h.stocks _ (product?_eq_some found).1⟩

end InBounds

theorem opening_inBounds (users : List User) (supply : Supply) :
    (opening users supply).InBounds := by
  constructor <;> simp [opening]

/-! ## Steps -/

theorem Step.inBounds {call : StoreCall} {reply : Reply} {b' : Books} (h : Step b call reply b')
    (checked : call.Checked) (inBounds : b.InBounds) : b'.InBounds := by
  cases h with
  | read => exact inBounds
  | createWallet => exact (inBounds.spend 1 1).addWallet (Int.le_refl 0)
  | insertProduct => exact (inBounds.spend 1 1).addProduct checked.1 checked.2
  | updateProduct => exact (inBounds.spend 0 1).setArticle fun _ _ _ => checked
  | deleteProduct =>
    exact (inBounds.spend 0 _).setArticle fun a ha _ => ⟨inBounds.prices a ha, inBounds.stocks a ha⟩
  | deposit holder exact =>
    have := inBounds.balance holder
    have positive : 0 < Money.value _ := checked
    exact inBounds.post (by omega) positive (by simp [EntryKind.quantity?])
  | withdraw holder enough exact =>
    have := Money.le_iff.mp enough
    exact inBounds.post (by omega) checked (by simp [EntryKind.quantity?])
  | @purchase _ _ quantity stock total _ _ _ _ holder live inStock priced enough exact left =>
    have := Money.le_iff.mp enough
    have positive : 0 < quantity.toInt := checked
    have amount : 0 < total.value := priced ▸ Int.mul_pos (inBounds.live live).1 positive
    refine InBounds.setStock ?_ (by omega)
    refine inBounds.post (by omega) amount ?_
    rintro q ⟨⟩
    exact positive

/-! ## Arithmetic -/

variable {how : Manner}

theorem withdraw_ne_aborted {amount : Money} (positive : 0 < amount.value) (cause : Abort) :
    b.respond how (.withdraw user amount) ≠ .error (.aborted cause) := by
  rw [respond]
  rcases b.wallet? user with _ | w
  · simp
  by_cases short : w.balance < amount <;> simp only [short, ↓reduceIte]
  · simp
  have enough := Money.le_iff.mp (Money.le_of_not_lt short)
  rcases exact : w.balance.sub amount with cause' | balance
  · exact absurd exact (Money.sub_ne_error (by omega) enough)
  · simp

theorem purchase_ne_aborted (inBounds : b.InBounds) {quantity : Int64}
    (positive : 0 < quantity.toInt) (cause : Abort) :
    b.respond how (.purchase user id quantity) ≠ .error (.aborted cause) := by
  rw [respond]
  rcases b.wallet? user with _ | w
  · simp
  rcases live : b.product? id with _ | p
  · simp
  by_cases scarce : p.stock.toInt < quantity.toInt <;> simp only [scarce, ↓reduceIte]
  · simp
  rcases priced : p.price.mul? quantity with _ | total
  · simp
  by_cases short : w.balance < total <;> simp only [short, ↓reduceIte]
  · simp
  have amount : 0 < total.value := by
    rw [Money.mul?_eq_some_iff.mp priced]
    exact Int.mul_pos (inBounds.live live).1 positive
  have enough := Money.le_iff.mp (Money.le_of_not_lt short)
  rcases exact : w.balance.sub total with cause' | balance
  · exact absurd exact (Money.sub_ne_error (by omega) enough)
  rcases left : subtract p.stock quantity with cause' | stock
  · exact absurd left (subtract_ne_error (by omega) (by omega))
  · simp

/-- No arithmetic stops a checked call on books in bounds. -/
theorem respond_ne_aborted {call : StoreCall} (checked : call.Checked) (inBounds : b.InBounds)
    (cause : Abort) : b.respond how call ≠ .error (.aborted cause) := by
  by_cases reads : call.isRead
  · simp [respond_read reads]
  cases call with
  | createWallet user =>
    rw [respond]
    split <;> simp
  | insertProduct fields => simp [respond]
  | updateProduct id fields =>
    rw [respond]
    split <;> simp
  | deleteProduct id =>
    rw [respond]
    split <;> simp
  | deposit user amount =>
    rw [respond]
    split
    · simp
    · split <;> simp
  | withdraw user amount => exact withdraw_ne_aborted checked cause
  | purchase user id quantity => exact purchase_ne_aborted inBounds checked cause
  | _ => exact absurd rfl reads

end Memory.Books

end WalletLedger
