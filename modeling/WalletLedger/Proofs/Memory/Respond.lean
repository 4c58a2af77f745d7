import WalletLedger.Proofs.Books.Respond
import WalletLedger.Proofs.Memory.Units

/-!
# What a unit of work comes to

When no fault is armed, the unit of work of a call comes to what the books say
(`unit_respond`). A purchase in memory writes the wallet and the product under
one time, and a deletion does not look at the clock (`Memory.manner`).
-/

namespace WalletLedger.Memory.Work

variable {b : Books}

theorem deposit_respond (user : String) (amount : Money) :
    (unit (.deposit user amount) b none).1 = b.respond manner (.deposit user amount) := by
  rw [Books.respond]
  simp only [unit, deposit, findWallet, map_apply, bind_apply, get_apply]
  rcases b.wallet? user with _ | w
  · rfl
  · simp only [orRefuse, pure_apply]
    rcases w.balance.add? amount with _ | balance <;> rfl

theorem withdraw_respond (user : String) (amount : Money) :
    (unit (.withdraw user amount) b none).1 = b.respond manner (.withdraw user amount) := by
  rw [Books.respond]
  simp only [unit, withdraw, findWallet, map_apply, bind_apply, get_apply]
  rcases b.wallet? user with _ | w
  · rfl
  · simp only [orRefuse, pure_apply]
    by_cases short : w.balance < amount <;> simp only [short, ↓reduceIte]
    · rfl
    · rcases w.balance.sub amount with _ | balance <;> rfl

theorem purchase_respond (user id : String) (quantity : Int64) :
    (unit (.purchase user id quantity) b none).1 =
      b.respond manner (.purchase user id quantity) := by
  rw [Books.respond]
  simp only [unit, purchase, findWallet, findProduct, map_apply, bind_apply, get_apply]
  rcases b.wallet? user with _ | w
  · rfl
  simp only [orRefuse, pure_apply]
  rcases b.product? id with _ | p
  · rfl
  simp only [pure_apply]
  by_cases scarce : p.stock.toInt < quantity.toInt <;> simp only [scarce, ↓reduceIte]
  · rfl
  rcases p.price.mul? quantity with _ | total
  · rfl
  simp only [bind_apply, pure_apply]
  by_cases short : w.balance < total <;> simp only [short, ↓reduceIte]
  · rfl
  rcases w.balance.sub total with _ | balance
  · rfl
  rcases subtract p.stock quantity with _ | stock <;> rfl

/-- Without a fault the unit of a call comes to what the books say. -/
theorem unit_respond (call : StoreCall) : (unit call b none).1 = b.respond manner call := by
  cases call with
  | createWallet user =>
    rw [Books.respond]
    simp only [unit, createWallet, map_apply, bind_apply, get_apply]
    by_cases taken : (b.wallet? user).isSome <;> simp only [taken, ↓reduceIte] <;> rfl
  | updateProduct id fields =>
    rw [Books.respond]
    simp only [unit, updateProduct, findProduct, map_apply, bind_apply, get_apply]
    cases b.product? id <;> rfl
  | deleteProduct id =>
    rw [Books.respond]
    simp only [unit, deleteProduct, findProduct, map_apply, bind_apply, get_apply]
    cases b.product? id <;> rfl
  | deposit user amount => exact deposit_respond user amount
  | withdraw user amount => exact withdraw_respond user amount
  | purchase user id quantity => exact purchase_respond user id quantity
  | _ => rfl

end WalletLedger.Memory.Work
