import WalletLedger.Proofs.Books.Bounds
import WalletLedger.Service.Request
import Mathlib.Data.List.Forall2

/-!
# Movements of money

A deposit, a withdrawal or a purchase is a `Movement`. It is refused for the
first of a list of causes that applies: a flaw of what is asked for
(`Movement.flaw?`), then a hindrance in the books (`Books.hindrance?`). If none
applies it is `Carried` out: one entry, one balance and, for a purchase, one
stock change by exactly what moves, and nothing else does. A store call for a
movement without a flaw, on books in bounds, comes to one or the other
(`respond_of_hindrance`, `respond_of_no_hindrance`).
-/

namespace WalletLedger

/-- The greatest number of cents and the greatest number of units. -/
def greatest : Int := 9223372036854775807

/-- The amount of a number of cents. -/
def Money.ofCents (n : Int) : Money := ⟨.ofInt n⟩

theorem Money.eq_ofCents {m : Money} {n : Int} (h : m.value = n) : m = ofCents n := by
  subst h
  exact congrArg Money.mk (Int64.ofInt_toInt m.cents).symm

theorem Money.add?_eq_none_iff {a b : Money} : add? a b = none ↔ ¬ Fits (a.value + b.value) := by
  rw [add?, Option.map_eq_none_iff, fit?_eq_none_iff]

theorem Money.mul?_eq_none_iff {a : Money} {n : Int64} :
    mul? a n = none ↔ ¬ Fits (a.value * n.toInt) := by
  rw [mul?, Option.map_eq_none_iff, fit?_eq_none_iff]

/-- A number that is not below zero fits unless it is too great. -/
theorem fits_iff_le {n : Int} (nonneg : 0 ≤ n) : Fits n ↔ n ≤ greatest := by
  unfold Fits greatest
  omega

/-- The units that an entry takes from the stock of its product. -/
def EntryKind.units : EntryKind → Int
  | .purchase _ q _ => q.toInt
  | _ => 0

/-- A request that moves money. -/
inductive Movement
  | deposit (user : String) (amount : Money)
  | withdraw (user : String) (amount : Money)
  | purchase (user product : String) (quantity : Int64)
deriving DecidableEq, Repr

namespace Movement

/-- The user whose money moves. -/
def user : Movement → String
  | .deposit u _ | .withdraw u _ | .purchase u _ _ => u

/-- The movement as a request to the services. -/
def request : Movement → Request
  | .deposit u a => .deposit u a
  | .withdraw u a => .withdraw u a
  | .purchase u p q => .purchase u p q

/-- The movement as a call of a store. -/
def call : Movement → StoreCall
  | .deposit u a => .deposit u a
  | .withdraw u a => .withdraw u a
  | .purchase u p q => .purchase u p q

/-- Why nothing is worth asking a store: a blank user, or else nothing to move. -/
def flaw? (m : Movement) : Option LedgerError :=
  if Text.isBlankText m.user then some (.validation (.required "user_id"))
  else match m with
    | .deposit _ a | .withdraw _ a => if a.value ≤ 0 then some (.invalidAmount a) else none
    | .purchase _ _ q => if q.toInt ≤ 0 then some (.invalidQuantity q) else none

theorem checked_of_no_flaw {m : Movement} (sound : m.flaw? = none) : m.call.Checked := by
  unfold flaw? at sound
  split at sound
  · cases sound
  · cases m <;> exact Int.not_le.mp fun nothing => by simp [nothing] at sound

theorem call_writes (m : Movement) : ¬ m.call.isRead := by
  cases m <;> exact Bool.false_ne_true

end Movement

/-- The movement that a request asks for. -/
def Request.movement? : Request → Option Movement
  | .deposit u a => some (.deposit u a)
  | .withdraw u a => some (.withdraw u a)
  | .purchase u p q => some (.purchase u p q)
  | _ => none

/-- The movement that a call of a store carries out. -/
def StoreCall.movement? : StoreCall → Option Movement
  | .deposit u a => some (.deposit u a)
  | .withdraw u a => some (.withdraw u a)
  | .purchase u p q => some (.purchase u p q)
  | _ => none

theorem Request.movement?_eq_some {r : Request} {m : Movement} (h : r.movement? = some m) :
    r = m.request := by
  cases r <;> cases h <;> rfl

namespace Memory.Books

variable {how : Manner} {b : Books} {m : Movement}

/-- What keeps a wallet from a movement: the first of the causes that applies. -/
def shortfall? (b : Books) (w : Wallet) : Movement → Option LedgerError
  | .deposit _ a =>
    if greatest < w.balance.value + a.value then some (.overflow "deposit") else none
  | .withdraw _ a =>
    if w.balance.value < a.value then some (.insufficientBalance w.balance a) else none
  | .purchase _ id q =>
    match b.product? id with
    | none => some (.productNotFound id)
    | some p =>
      let cost := p.price.value * q.toInt
      if p.stock.toInt < q.toInt then some (.insufficientStock id p.stock q)
      else if greatest < cost then some (.overflow "purchase total")
      else if w.balance.value < cost then some (.insufficientBalance w.balance (.ofCents cost))
      else none

/-- Why books refuse a movement, if they do. -/
def hindrance? (b : Books) (m : Movement) : Option LedgerError :=
  match b.wallet? m.user with
  | none => some (.walletNotFound m.user)
  | some w => b.shortfall? w m

/-- What the entry of a movement says. A purchase costs the price of its moment. -/
def Records (b : Books) (k : EntryKind) : Movement → Prop
  | .deposit _ a => k = .deposit a
  | .withdraw _ a => k = .withdraw a
  | .purchase _ id q => ∃ p total, b.product? id = some p ∧
      total.value = p.price.value * q.toInt ∧ k = .purchase id q total

/-- A wallet after an entry: the balance of the user is moved by it, and no other row is touched. -/
def WalletMoved (user : String) (k : EntryKind) (w w' : Wallet) : Prop :=
  if w.userId = user then
    w' = { w with balance := w'.balance, updatedAt := w'.updatedAt } ∧
      w'.balance.value = w.balance.value + k.effect
  else w' = w

/-- An article after an entry: its product loses the units that were
purchased, and no other row is touched. -/
def ArticleMoved (k : EntryKind) (a a' : Article) : Prop :=
  if k.productId? = some a.product.id then
    a' = { a with product := { a.product with
        stock := a'.product.stock, updatedAt := a'.product.updatedAt } } ∧
      a'.product.stock.toInt = a.product.stock.toInt - k.units
  else a' = a

/-- A movement was carried out under an entry, and nothing else happened. -/
structure Carried (b : Books) (m : Movement) (e : Entry) (b' : Books) : Prop where
  entries : b'.entries = b.entries ++ [e]
  fresh : e.id ∉ b.entries.map (·.id)
  holder : ∃ w, b.wallet? m.user = some w ∧ e.walletId = w.id
  kind : b.Records e.kind m
  wallets : List.Forall₂ (WalletMoved m.user e.kind) b.wallets b'.wallets
  articles : List.Forall₂ (ArticleMoved e.kind) b.articles b'.articles
  users : b'.users = b.users

/-! ## Refusals -/

section Refusals

variable {user id : String} {w : Wallet} {e : LedgerError}

theorem deposit_refused (inBounds : b.InBounds) (holder : b.wallet? user = some w) {amount : Money}
    (positive : 0 < amount.value) (short : b.shortfall? w (.deposit user amount) = some e) :
    b.respond how (.deposit user amount) = .error (.refused e) := by
  have solvent := inBounds.balance holder
  simp only [shortfall?, Option.ite_none_right_eq_some, Option.some.injEq] at short
  obtain ⟨tooMuch, rfl⟩ := short
  have unfit : w.balance.add? amount = none :=
    Money.add?_eq_none_iff.mpr fun fits => by
      have := (fits_iff_le (by omega)).mp fits
      omega
  rw [respond, holder]
  simp only [unfit]

theorem withdraw_refused (holder : b.wallet? user = some w) {amount : Money}
    (short : b.shortfall? w (.withdraw user amount) = some e) :
    b.respond how (.withdraw user amount) = .error (.refused e) := by
  simp only [shortfall?, Option.ite_none_right_eq_some, Option.some.injEq] at short
  obtain ⟨short, rfl⟩ := short
  rw [respond, holder]
  exact if_pos short

theorem purchase_refused (inBounds : b.InBounds) (holder : b.wallet? user = some w)
    {quantity : Int64} (positive : 0 < quantity.toInt)
    (short : b.shortfall? w (.purchase user id quantity) = some e) :
    b.respond how (.purchase user id quantity) = .error (.refused e) := by
  rw [respond, holder]
  simp only [shortfall?] at short
  rcases live : b.product? id with _ | p <;> simp only [live] at short ⊢
  · cases short
    rfl
  by_cases scarce : p.stock.toInt < quantity.toInt <;> simp only [scarce, ↓reduceIte] at short ⊢
  · cases short
    rfl
  have cost := Int.mul_pos (inBounds.live live).1 positive
  rcases priced : p.price.mul? quantity with _ | total
  · have tooMuch : greatest < p.price.value * quantity.toInt :=
      Int.not_le.mp fun le =>
        Money.mul?_eq_none_iff.mp priced ((fits_iff_le (by omega)).mpr le)
    simp only [tooMuch, ↓reduceIte, Option.some.injEq] at short
    rw [short]
  · have exact := Money.mul?_eq_some_iff.mp priced
    have fits : ¬ greatest < p.price.value * quantity.toInt := by
      rw [← exact]
      exact Int.not_lt.mpr (fits_toInt total.cents).2
    simp only [fits, ↓reduceIte, Option.ite_none_right_eq_some, Option.some.injEq] at short
    obtain ⟨short, rfl⟩ := short
    rw [← exact] at short ⊢
    rw [← Money.eq_ofCents rfl]
    exact if_pos short

end Refusals

theorem respond_of_hindrance (inBounds : b.InBounds) (sound : m.flaw? = none) {e : LedgerError}
    (hindered : b.hindrance? m = some e) : b.respond how m.call = .error (.refused e) := by
  have checked := Movement.checked_of_no_flaw sound
  unfold hindrance? at hindered
  rcases holder : b.wallet? m.user with _ | w <;> rw [holder] at hindered
  · obtain rfl : LedgerError.walletNotFound m.user = e := Option.some.inj hindered
    cases m with
    | deposit user _ =>
      rw [Movement.call, respond, show b.wallet? user = none from holder]
      rfl
    | withdraw user _ =>
      rw [Movement.call, respond, show b.wallet? user = none from holder]; rfl
    | purchase user _ _ =>
      rw [Movement.call, respond, show b.wallet? user = none from holder]; rfl
  · cases m with
    | deposit => exact deposit_refused inBounds holder checked hindered
    | withdraw => exact withdraw_refused holder hindered
    | purchase => exact purchase_refused inBounds holder checked hindered

/-! ## Movements that are carried out -/

section Answers

variable {user id : String} {w : Wallet}

theorem deposit_answered (inBounds : b.InBounds) (holder : b.wallet? user = some w) {amount : Money}
    (positive : 0 < amount.value) (enough : b.shortfall? w (.deposit user amount) = none) :
    ∃ reply b', b.respond how (.deposit user amount) = .ok (reply, b') := by
  have solvent := inBounds.balance holder
  simp only [shortfall?, ite_eq_right_iff, reduceCtorEq, imp_false, Int.not_lt] at enough
  rw [respond, holder]
  rcases sum : w.balance.add? amount with _ | balance
  · exact absurd ((fits_iff_le (by omega)).mpr enough) (Money.add?_eq_none_iff.mp sum)
  · simp only [sum]
    exact ⟨_, _, rfl⟩

theorem withdraw_answered (holder : b.wallet? user = some w) {amount : Money}
    (positive : 0 < amount.value) (enough : b.shortfall? w (.withdraw user amount) = none) :
    ∃ reply b', b.respond how (.withdraw user amount) = .ok (reply, b') := by
  simp only [shortfall?, ite_eq_right_iff, reduceCtorEq, imp_false, Int.not_lt] at enough
  rw [respond, holder]
  simp only [show ¬ w.balance < amount from Int.not_lt.mpr enough, ↓reduceIte]
  rcases rest : w.balance.sub amount with cause | balance
  · exact absurd rest (Money.sub_ne_error (by omega) enough)
  · exact ⟨_, _, rfl⟩

theorem purchase_answered (inBounds : b.InBounds) (holder : b.wallet? user = some w)
    {quantity : Int64} (positive : 0 < quantity.toInt)
    (enough : b.shortfall? w (.purchase user id quantity) = none) :
    ∃ reply b', b.respond how (.purchase user id quantity) = .ok (reply, b') := by
  rw [respond, holder]
  simp only [shortfall?] at enough
  rcases live : b.product? id with _ | p <;> simp only [live, reduceCtorEq] at enough ⊢
  by_cases scarce : p.stock.toInt < quantity.toInt <;>
    simp only [scarce, ↓reduceIte, reduceCtorEq] at enough ⊢
  have cost := Int.mul_pos (inBounds.live live).1 positive
  simp only [ite_eq_iff, reduceCtorEq, and_false, false_or, Int.not_lt, and_true] at enough
  obtain ⟨fits, covered⟩ := enough
  rcases priced : p.price.mul? quantity with _ | total
  · exact absurd ((fits_iff_le (by omega)).mpr fits) (Money.mul?_eq_none_iff.mp priced)
  have exact := Money.mul?_eq_some_iff.mp priced
  have afforded : total.value ≤ w.balance.value := exact ▸ covered
  simp only [show ¬ w.balance < total from Int.not_lt.mpr afforded, ↓reduceIte]
  rcases rest : w.balance.sub total with cause | balance
  · exact absurd rest (Money.sub_ne_error (by omega) afforded)
  rcases left : subtract p.stock quantity with cause | stock
  · exact absurd left (subtract_ne_error (by omega) (by omega))
  · exact ⟨_, _, rfl⟩

end Answers

/-- Only the row of the user is moved. -/
theorem walletMoved_of_post (wf : b.WellFormed) {user : String} {w : Wallet}
    (holder : b.wallet? user = some w) {balance : Money} {k : EntryKind}
    {look : Nat} (exact : balance.value = w.balance.value + k.effect) :
    List.Forall₂ (WalletMoved user k) b.wallets (b.post user w.id balance k look).wallets := by
  refine List.forall₂_map_right_iff.mpr (List.forall₂_same.mpr fun v hv => ?_)
  unfold WalletMoved
  by_cases own : v.userId = user <;> simp only [own, ↓reduceIte]
  · obtain rfl := wf.owner_unique hv (wallet?_eq_some holder).1
      (own.trans (wallet?_eq_some holder).2.symm)
    exact ⟨trivial, exact⟩

/-- Only the row of the product is moved. -/
theorem articleMoved_of_setStock (wf : b.WellFormed) {id : String} {p : Product}
    (live : b.product? id = some p) {quantity stock : Int64} {total : Money} {time : Timestamp}
    (left : stock.toInt = p.stock.toInt - quantity.toInt) :
    List.Forall₂ (ArticleMoved (.purchase id quantity total)) b.articles
      (b.setStock id stock time).articles := by
  refine List.forall₂_map_right_iff.mpr (List.forall₂_same.mpr fun a ha => ?_)
  unfold ArticleMoved
  by_cases own : a.product.id = id
  · obtain rfl := wf.article_eq live ha own
    obtain rfl : p.id = id := own
    simp only [EntryKind.productId?, ↓reduceIte]
    exact ⟨trivial, left⟩
  · simp [EntryKind.productId?, own, Ne.symm own]

/-- What is answered to a movement is its entry, and it was carried out. -/
theorem Step.carried {reply : Reply} {b' : Books} (step : Step b m.call reply b')
    (wf : b.WellFormed) : ∃ e, reply = .entry e ∧ b.Carried m e b' := by
  have fresh (walletId : String) (k : EntryKind) (look : Nat) :
      (b.newEntry walletId k look).id ∉ b.entries.map (·.id) := wf.fresh_entry
  have untouched (k : EntryKind) (none_sold : k.productId? = none) :
      List.Forall₂ (ArticleMoved k) b.articles b.articles :=
    List.forall₂_same.mpr fun a _ => by simp [ArticleMoved, none_sold]
  rcases m with ⟨user, amount⟩ | ⟨user, amount⟩ | ⟨user, id, quantity⟩
  · cases step with
    | read reads => exact absurd reads Bool.false_ne_true
    | @deposit _ _ balance w holder exact =>
      exact ⟨_, rfl, rfl, fresh _ _ _, ⟨w, holder, rfl⟩, rfl, walletMoved_of_post wf holder exact,
        untouched _ rfl, rfl⟩
  · cases step with
    | read reads => exact absurd reads Bool.false_ne_true
    | @withdraw _ _ balance w holder enough exact =>
      exact ⟨_, rfl, rfl, fresh _ _ _, ⟨w, holder, rfl⟩, rfl, walletMoved_of_post wf holder exact,
        untouched _ rfl, rfl⟩
  · cases step with
    | read reads => exact absurd reads Bool.false_ne_true
    | @purchase _ _ _ stock total balance w p look holder live inStock priced enough exact left =>
      exact ⟨_, rfl, rfl, fresh _ _ _, ⟨w, holder, rfl⟩, ⟨p, total, live, priced, rfl⟩,
        walletMoved_of_post wf holder exact, articleMoved_of_setStock wf live left, rfl⟩

theorem respond_of_no_hindrance (wf : b.WellFormed) (inBounds : b.InBounds)
    (sound : m.flaw? = none) (free : b.hindrance? m = none) :
    ∃ e b', b.respond how m.call = .ok (.entry e, b') ∧ b.Carried m e b' := by
  have checked := Movement.checked_of_no_flaw sound
  have answered : ∃ reply b', b.respond how m.call = .ok (reply, b') := by
    unfold hindrance? at free
    rcases holder : b.wallet? m.user with _ | w <;> rw [holder] at free
    · cases free
    cases m with
    | deposit => exact deposit_answered inBounds holder checked free
    | withdraw => exact withdraw_answered holder checked free
    | purchase => exact purchase_answered inBounds holder checked free
  obtain ⟨reply, b', answered⟩ := answered
  obtain ⟨e, rfl, carried⟩ := (respond_step answered).carried wf
  exact ⟨e, b', answered, carried⟩

end Memory.Books

end WalletLedger
