import WalletLedger.Proofs.Books.Step

/-!
# What a call comes to

`Books.respond` is the outcome of a call on books on their own: nothing is in
its way, and only the rows decide. It is the same for every store but for the
manner in which the store looks at the clock. An answer of it is a step of the
books (`respond_step`).
-/

namespace WalletLedger

theorem subtract_eq_ok_iff {a b c : Int64} :
    subtract a b = .ok c ↔ c.toInt = a.toInt - b.toInt := by
  unfold subtract
  split
  · next w h => rw [← fit?_eq_some_iff, h]; simp
  · next h => rw [← fit?_eq_some_iff, h]; simp

theorem Money.le_of_not_lt {a b : Money} (h : ¬ a < b) : b ≤ a := Int.not_lt.mp h

/-- The manner in which a store looks at the clock. Wherever it is the same for all stores it
is left out. -/
structure Manner where
  /-- How often a purchase looks at the clock between writing the wallet and the product. -/
  stockLook : Nat
  /-- How often a deletion looks at the clock. -/
  deletionLooks : Nat

/-- A purchase writes both rows under one time, and a deletion writes no time. -/
def Memory.manner : Manner := ⟨0, 0⟩

/-- Every statement that writes a row looks at the clock. -/
def Database.manner : Manner := ⟨1, 1⟩

namespace Memory.Books

variable {how : Manner} {b : Books} {user id : String}

/-- The outcome of a call when no fault is armed. -/
def respond (how : Manner) (b : Books) : StoreCall → Except Failure (Reply × Books)
  | .createWallet user =>
    if (b.wallet? user).isSome then .error (.refused (.duplicateWallet user))
    else .ok (.wallet (b.newWallet user), (b.spend 1 1).addWallet (b.newWallet user))
  | .insertProduct fields =>
    .ok (.product (b.newProduct fields), (b.spend 1 1).addProduct (b.newProduct fields))
  | .updateProduct id fields =>
    match b.product? id with
    | none => .error (.refused (.productNotFound id))
    | some p => .ok (.product (p.revised fields b.next.time),
        (b.spend 0 1).setArticle id fun a => { a with product := p.revised fields b.next.time })
  | .deleteProduct id =>
    match b.product? id with
    | none => .error (.refused (.productNotFound id))
    | some _ => .ok (.nothing,
        (b.spend 0 how.deletionLooks).setArticle id fun a => { a with deleted := true })
  | .deposit user amount =>
    match b.wallet? user with
    | none => .error (.refused (.walletNotFound user))
    | some w =>
      match w.balance.add? amount with
      | none => .error (.refused (.overflow "deposit"))
      | some balance => .ok (.entry (b.newEntry w.id (.deposit amount) 1),
          b.post user w.id balance (.deposit amount) 1)
  | .withdraw user amount =>
    match b.wallet? user with
    | none => .error (.refused (.walletNotFound user))
    | some w =>
      if w.balance < amount then .error (.refused (.insufficientBalance w.balance amount))
      else match w.balance.sub amount with
        | .error cause => .error (.aborted cause)
        | .ok balance => .ok (.entry (b.newEntry w.id (.withdraw amount) 1),
            b.post user w.id balance (.withdraw amount) 1)
  | .purchase user id quantity =>
    match b.wallet? user with
    | none => .error (.refused (.walletNotFound user))
    | some w =>
      match b.product? id with
      | none => .error (.refused (.productNotFound id))
      | some p =>
        if p.stock.toInt < quantity.toInt then
          .error (.refused (.insufficientStock id p.stock quantity))
        else match p.price.mul? quantity with
          | none => .error (.refused (.overflow "purchase total"))
          | some total =>
            if w.balance < total then .error (.refused (.insufficientBalance w.balance total))
            else match w.balance.sub total with
              | .error cause => .error (.aborted cause)
              | .ok balance =>
                match subtract p.stock quantity with
                | .error cause => .error (.aborted cause)
                | .ok stock =>
                  .ok (.entry (b.newEntry w.id (.purchase id quantity total) (how.stockLook + 1)),
                    (b.post user w.id balance (.purchase id quantity total)
                      (how.stockLook + 1)).setStock id stock (b.instant how.stockLook))
  | call => .ok (b.answer call, b)

theorem respond_read {call : StoreCall} (reads : call.isRead) :
    b.respond how call = .ok (b.answer call, b) := by
  cases call <;> first | rfl | cases reads

/-! ## Answers are steps -/

section Steps

variable {amount : Money} {reply : Reply} {b' : Books}

theorem deposit_step (h : b.respond how (.deposit user amount) = .ok (reply, b')) :
    Step b (.deposit user amount) reply b' := by
  rw [respond] at h
  rcases holder : b.wallet? user with _ | w <;> simp only [holder] at h
  · cases h
  rcases exact : w.balance.add? amount with _ | balance <;> simp only [exact] at h
  · cases h
  · cases h
    exact .deposit holder (Money.add?_eq_some_iff.mp exact)

theorem withdraw_step (h : b.respond how (.withdraw user amount) = .ok (reply, b')) :
    Step b (.withdraw user amount) reply b' := by
  rw [respond] at h
  rcases holder : b.wallet? user with _ | w <;> simp only [holder] at h
  · cases h
  by_cases short : w.balance < amount <;> simp only [short, ↓reduceIte] at h
  · cases h
  rcases exact : w.balance.sub amount with _ | balance <;> simp only [exact] at h
  · cases h
  · cases h
    exact .withdraw holder (Money.le_of_not_lt short) (Money.sub_eq_ok_iff.mp exact)

theorem purchase_step {quantity : Int64}
    (h : b.respond how (.purchase user id quantity) = .ok (reply, b')) :
    Step b (.purchase user id quantity) reply b' := by
  rw [respond] at h
  rcases holder : b.wallet? user with _ | w <;> simp only [holder] at h
  · cases h
  rcases live : b.product? id with _ | p <;> simp only [live] at h
  · cases h
  by_cases scarce : p.stock.toInt < quantity.toInt <;> simp only [scarce, ↓reduceIte] at h
  · cases h
  rcases priced : p.price.mul? quantity with _ | total <;> simp only [priced] at h
  · cases h
  by_cases short : w.balance < total <;> simp only [short, ↓reduceIte] at h
  · cases h
  rcases exact : w.balance.sub total with _ | balance <;> simp only [exact] at h
  · cases h
  rcases left : subtract p.stock quantity with _ | stock <;> simp only [left] at h
  · cases h
  · cases h
    exact .purchase holder live (Int.not_lt.mp scarce) (Money.mul?_eq_some_iff.mp priced)
      (Money.le_of_not_lt short) (Money.sub_eq_ok_iff.mp exact) (subtract_eq_ok_iff.mp left)

/-- An answered call is a step of the books. -/
theorem respond_step {call : StoreCall} (h : b.respond how call = .ok (reply, b')) :
    Step b call reply b' := by
  by_cases reads : call.isRead
  · rw [respond_read reads] at h
    cases h
    exact .read reads
  cases call with
  | createWallet user =>
    rw [respond] at h
    by_cases taken : (b.wallet? user).isSome <;> simp only [taken, ↓reduceIte] at h
    · cases h
    · cases h
      exact .createWallet (by simpa using taken)
  | insertProduct fields =>
    cases h
    exact .insertProduct
  | updateProduct id fields =>
    rw [respond] at h
    rcases live : b.product? id with _ | p <;> rw [live] at h <;> cases h
    exact .updateProduct live
  | deleteProduct id =>
    rw [respond] at h
    rcases live : b.product? id with _ | p <;> rw [live] at h <;> cases h
    exact .deleteProduct live
  | deposit user amount => exact deposit_step h
  | withdraw user amount => exact withdraw_step h
  | purchase user id quantity => exact purchase_step h
  | _ => exact absurd rfl reads

end Steps

end Memory.Books

end WalletLedger
