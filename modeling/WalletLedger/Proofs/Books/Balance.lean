import WalletLedger.Proofs.Books.Respond
import Mathlib.Algebra.Ring.Int.Defs

/-!
# Reconciliation

Books are `Reconciled` when every balance is what the entries of the wallet
add up to, in whole numbers without bound: its deposits, less its withdrawals,
less its purchases. Every step of well-formed books keeps them reconciled,
whatever the amounts (`Step.reconciled`): an entry changes the sum of its
wallet by what it changes the balance (`net_append`), and of no other.
-/

namespace WalletLedger.Memory.Books

/-- What the entries of one type in a wallet add up to. -/
def moved (type : EntryType) (walletId : String) (es : List Entry) : Int :=
  ((es.filter fun e => e.walletId == walletId && e.kind.type == type).map (·.kind.amount.value)).sum

/-- What all entries of a wallet add up to. -/
def net (walletId : String) (es : List Entry) : Int :=
  moved .deposit walletId es - moved .withdraw walletId es - moved .purchase walletId es

/-- Every balance is what the entries of its wallet add up to. -/
def Reconciled (b : Books) : Prop :=
  ∀ w ∈ b.wallets, w.balance.value = net w.id b.entries

variable {b : Books} {user id walletId : String} {es : List Entry}

/-! ## Sums -/

theorem moved_append (type : EntryType) (walletId : String) (es : List Entry) (e : Entry) :
    moved type walletId (es ++ [e]) = moved type walletId es +
      if e.walletId = walletId ∧ e.kind.type = type then e.kind.amount.value else 0 := by
  unfold moved
  rw [List.filter_append, List.map_append, List.sum_append]
  congr 1
  by_cases counts : e.walletId = walletId ∧ e.kind.type = type <;> simp [counts]

theorem net_append (walletId : String) (es : List Entry) (e : Entry) :
    net walletId (es ++ [e]) =
      net walletId es + if e.walletId = walletId then e.kind.effect else 0 := by
  simp only [net, moved_append]
  by_cases own : e.walletId = walletId
  · rcases kind : e.kind with a | a | ⟨p, q, a⟩ <;>
      simp [own, EntryKind.type, EntryKind.amount, EntryKind.effect] <;> omega
  · simp [own]

theorem net_of_no_entries (h : ∀ e ∈ es, e.walletId ≠ walletId) : net walletId es = 0 := by
  have nothing (type : EntryType) : moved type walletId es = 0 := by
    unfold moved
    rw [List.filter_eq_nil_iff.mpr fun e he => by simp [h e he]]
    rfl
  simp [net, nothing]

/-! ## Steps -/

theorem Reconciled.post (h : b.Reconciled) (wf : b.WellFormed) {w : Wallet}
    (holder : b.wallet? user = some w) {balance : Money} {kind : EntryKind} {look : Nat}
    (exact : balance.value = w.balance.value + kind.effect) :
    (b.post user w.id balance kind look).Reconciled := by
  intro v hv
  show v.balance.value = net v.id (b.entries ++ [b.newEntry w.id kind look])
  rw [net_append]
  rcases mem_setWallet hv with ⟨v, mem, own, rfl⟩ | ⟨hv, other⟩
  · obtain rfl := wf.owner_unique mem (wallet?_eq_some holder).1
      (own.trans (wallet?_eq_some holder).2.symm)
    show balance.value = net v.id b.entries + if v.id = v.id then kind.effect else 0
    rw [if_pos rfl, ← h v mem, exact]
  · have elsewhere : ¬ (b.newEntry w.id kind look).walletId = v.id :=
      fun same => other ((wf.id_eq_iff holder hv).mp same.symm)
    rw [if_neg elsewhere, h v hv, Int.add_zero]

theorem Reconciled.addWallet (h : b.Reconciled) (wf : b.WellFormed) (user : String) :
    ((b.spend 1 1).addWallet (b.newWallet user)).Reconciled := by
  intro v hv
  rcases List.mem_append.mp hv with hv | hv
  · exact h v hv
  · obtain rfl := List.mem_singleton.mp hv
    exact (net_of_no_entries fun e he => wf.walletId_ne_next he).symm

/-- Every step keeps books reconciled. -/
theorem Step.reconciled {call : StoreCall} {reply : Reply} {b' : Books} (h : Step b call reply b')
    (wf : b.WellFormed) (reconciled : b.Reconciled) : b'.Reconciled := by
  cases h with
  | read => exact reconciled
  | createWallet => exact reconciled.addWallet wf _
  | insertProduct => exact reconciled
  | updateProduct => exact reconciled
  | deleteProduct => exact reconciled
  | deposit holder exact => exact reconciled.post wf holder exact
  | withdraw holder enough exact => exact reconciled.post wf holder (by rw [exact]; rfl)
  | purchase holder live inStock priced enough exact left =>
    exact reconciled.post wf holder (by rw [exact]; rfl)

/-! ## Sound books -/

/-- Books that are well formed and reconciled. -/
structure Sound (b : Books) : Prop where
  wellFormed : b.WellFormed
  reconciled : b.Reconciled

namespace Sound

theorem opening (users : List User) (supply : Supply) : (Books.opening users supply).Sound :=
  ⟨opening_wellFormed users supply, fun _ hw => absurd hw (by simp [Books.opening])⟩

theorem respond (h : b.Sound) {how : Manner} {call : StoreCall} {reply : Reply} {b' : Books}
    (answered : b.respond how call = .ok (reply, b')) : b'.Sound :=
  ⟨(respond_step answered).wellFormed h.wellFormed,
    (respond_step answered).reconciled h.wellFormed h.reconciled⟩

theorem spend (h : b.Sound) (ids looks : Nat) : (b.spend ids looks).Sound :=
  ⟨h.wellFormed.spend ids looks, h.reconciled⟩

/-- Identity records have no part in it. -/
theorem withUsers (h : b.Sound) (users : List User) : { b with users }.Sound :=
  ⟨h.wellFormed.withUsers users, h.reconciled⟩

end Sound

end WalletLedger.Memory.Books
