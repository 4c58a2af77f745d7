import WalletLedger.Memory.Store
import WalletLedger.Proofs.Books.Step

/-!
# Units of work on the books

A unit of work is followed step by step (`bind_apply`). The steps of the calls
are few, so a property that they have, and that passes to what is put together
from them, is one of the unit of every call that writes (`Stepwise.unit`).

A unit `Spares` faults when it comes to the same whether one is armed or not,
unless it meets the fault: then it ends with the failure of the fault, which is
no longer armed. Every step spares faults, so the unit of every call does
(`unit_spares`). A unit `IgnoresUsers` when it neither looks at identity records
nor changes them; that holds of all writes (`unit_ignoresUsers`).
-/

namespace WalletLedger.Memory

/-- The failure that an armed fault raises. -/
def FaultPoint.failure (p : FaultPoint) : Failure :=
  .refused (.storage ("injected fault at " ++ p.name))

/-- The books with other identity records. -/
def Books.withUsers (b : Books) (users : List User) : Books :=
  { b with users }

namespace Work

variable {α β : Type} {b : Books} {armed : Option FaultPoint}

/-! ## Steps one after another -/

theorem pure_apply (a : α) : (pure a : Work α) b armed = (.ok (a, b), armed) := rfl

theorem get_apply : (get : Work Books) b armed = (.ok (b, b), armed) := rfl

theorem bind_apply (x : Work α) (f : α → Work β) :
    (x >>= f) b armed =
      match x b armed with
      | (.ok (a, b), armed) => f a b armed
      | (.error e, armed) => (.error e, armed) := by
  simp only [bind, StateT.bind, ExceptT.bind, ExceptT.mk, ExceptT.bindCont]
  rcases x b armed with ⟨_ | ⟨_, _⟩, _⟩ <;> rfl

theorem map_apply (f : α → β) (x : Work α) :
    (f <$> x) b armed =
      match x b armed with
      | (.ok (a, b), armed) => (.ok (f a, b), armed)
      | (.error e, armed) => (.error e, armed) := by
  show (x >>= fun a => pure (f a)) b armed = _
  rw [bind_apply]
  rfl

/-! ## Units of calls -/

/-- The unit of work that carries out a call. -/
def unit : StoreCall → Work Reply
  | .createWallet user => .wallet <$> createWallet user
  | .insertProduct p => .product <$> insertProduct p
  | .updateProduct id p => .product <$> updateProduct id p
  | .deleteProduct id => (fun _ => .nothing) <$> deleteProduct id
  | .deposit user amount => .entry <$> deposit user amount
  | .withdraw user amount => .entry <$> withdraw user amount
  | .purchase user id quantity => .entry <$> purchase user id quantity
  | read => (·.answer read) <$> get

/-- A property that passes from steps to the units that are put together from
them. The steps of writes do not look at identity records, and leave them alone. -/
structure Stepwise (P : ∀ {α : Type}, Work α → Prop) : Prop where
  bind : ∀ {α β : Type} {x : Work α} {f : α → Work β}, P x → (∀ a, P (f a)) → P (x >>= f)
  pure : ∀ {α : Type} (a : α), P (pure a)
  throw : ∀ {α : Type} (e : Failure), P (throw e : Work α)
  trip : ∀ point, P (trip point)
  newId : P newId
  readClock : P readClock
  look : ∀ {α : Type} {f : Books → Work α}, (∀ b users, f (b.withUsers users) = f b) →
    (∀ b, P (f b)) → P (get >>= f)
  modify : ∀ {f : Books → Books}, (∀ b users, f (b.withUsers users) = (f b).withUsers users) →
    P (modify f)

namespace Stepwise

variable {P : ∀ {α : Type}, Work α → Prop} (h : Stepwise P)
include h

theorem map (f : α → β) {x : Work α} (hx : P x) : P (f <$> x) := by
  show P (x >>= fun a => Pure.pure (f a))
  exact h.bind hx fun _ => h.pure _

theorem orRefuse (e : LedgerError) (a : Option α) : P (orRefuse e a) := by
  cases a
  · exact h.throw _
  · exact h.pure _

theorem compute (r : Except Abort α) : P (compute r) := by
  cases r
  · exact h.throw _
  · exact h.pure _

/-- A unit that may be refused before it goes on. -/
theorem guard {c : Prop} [Decidable c] {e : LedgerError} {x : Unit → Work α} (hx : P (x ())) :
    P (if c then refuse e >>= x else x ()) := by
  split
  · exact h.bind (h.throw _) fun _ => hx
  · exact hx

theorem findWallet (user : String) : P (findWallet user) :=
  h.look (fun _ _ => rfl) fun _ => h.orRefuse _ _

theorem findProduct (id : String) : P (findProduct id) :=
  h.look (fun _ _ => rfl) fun _ => h.orRefuse _ _

theorem append (walletId : String) (kind : EntryKind) : P (append walletId kind) := by
  refine h.bind (h.trip _) fun _ => h.bind h.newId fun _ => h.bind h.readClock fun _ => ?_
  exact h.bind (h.modify fun _ _ => rfl) fun _ => h.pure _

theorem deposit (user : String) (amount : Money) : P (deposit user amount) := by
  refine h.bind (h.findWallet user) fun _ => h.bind (h.orRefuse _ _) fun _ => ?_
  refine h.bind (h.trip _) fun _ => h.bind h.readClock fun _ => ?_
  exact h.bind (h.modify fun _ _ => rfl) fun _ => h.append _ _

theorem withdraw (user : String) (amount : Money) : P (withdraw user amount) := by
  refine h.bind (h.findWallet user) fun _ => h.guard ?_
  refine h.bind (h.trip _) fun _ => h.bind (h.compute _) fun _ => h.bind h.readClock fun _ => ?_
  exact h.bind (h.modify fun _ _ => rfl) fun _ => h.append _ _

theorem purchase (user id : String) (quantity : Int64) : P (purchase user id quantity) := by
  refine h.bind (h.findWallet user) fun _ => h.bind (h.findProduct id) fun _ => h.guard ?_
  refine h.bind (h.orRefuse _ _) fun _ => h.guard ?_
  refine h.bind h.readClock fun _ => h.bind (h.trip _) fun _ => ?_
  refine h.bind (h.compute _) fun _ => h.bind (h.modify fun _ _ => rfl) fun _ => ?_
  refine h.bind (h.trip _) fun _ => h.bind (h.compute _) fun _ => ?_
  exact h.bind (h.modify fun _ _ => rfl) fun _ => h.append _ _

theorem unit {call : StoreCall} (writes : ¬ call.isRead) : P (unit call) := by
  cases call with
  | createWallet user =>
    refine h.map _ (h.look (fun _ _ => rfl) fun _ => h.guard ?_)
    refine h.bind h.readClock fun _ => h.bind h.newId fun _ => ?_
    exact h.bind (h.modify fun _ _ => rfl) fun _ => h.pure _
  | insertProduct p =>
    refine h.map _ (h.bind h.readClock fun _ => h.bind h.newId fun _ => ?_)
    exact h.bind (h.modify fun _ _ => rfl) fun _ => h.pure _
  | updateProduct id p =>
    refine h.map _ (h.bind (h.findProduct id) fun _ => h.bind h.readClock fun _ => ?_)
    exact h.bind (h.modify fun _ _ => rfl) fun _ => h.pure _
  | deleteProduct id =>
    exact h.map _ (h.bind (h.findProduct id) fun _ => h.modify fun _ _ => rfl)
  | deposit user amount => exact h.map _ (h.deposit user amount)
  | withdraw user amount => exact h.map _ (h.withdraw user amount)
  | purchase user id quantity => exact h.map _ (h.purchase user id quantity)
  | _ => exact absurd rfl writes

end Stepwise

/-! ## Faults -/

/-- A unit comes to the same whether a fault is armed or not, unless it meets
the fault: then it ends with the failure of the fault, and the fault is gone. -/
def Spares (x : Work α) : Prop :=
  ∀ b armed, x b armed = ((x b none).1, armed) ∨
    ∃ p, armed = some p ∧ x b armed = (.error p.failure, none)

theorem Spares.unarmed {x : Work α} (h : x.Spares) : x b none = ((x b none).1, none) := by
  rcases h b none with e | ⟨p, none_eq, -⟩
  · exact e
  · exact absurd none_eq (by simp)

/-- What looks at nothing but the books spares faults. -/
theorem Spares.of_eq {x : Work α} (h : ∀ b armed, x b armed = ((x b none).1, armed)) : x.Spares :=
  fun b armed => .inl (h b armed)

theorem Spares.bind {x : Work α} {f : α → Work β} (hx : x.Spares) (hf : ∀ a, (f a).Spares) :
    (x >>= f).Spares := by
  intro b armed
  simp only [bind_apply]
  rw [hx.unarmed]
  rcases hx b armed with e | ⟨p, rfl, e⟩ <;> rw [e]
  · rcases (x b none).1 with _ | ⟨a, b'⟩
    · exact .inl rfl
    · exact hf a b' armed
  · exact .inr ⟨p, rfl, rfl⟩

theorem trip_spares (point : FaultPoint) : (trip point).Spares := by
  intro b armed
  by_cases h : armed = some point
  · exact .inr ⟨point, h, by simp [trip, h, FaultPoint.failure]⟩
  · exact .inl (by simp [trip, h])

theorem spares_stepwise : Stepwise Spares where
  bind := Spares.bind
  pure _ := .of_eq fun _ _ => rfl
  throw _ := .of_eq fun _ _ => rfl
  trip := trip_spares
  newId := .of_eq fun _ _ => rfl
  readClock := .of_eq fun _ _ => rfl
  look _ hf := Spares.bind (.of_eq fun _ _ => rfl) hf
  modify _ := .of_eq fun _ _ => rfl

theorem unit_spares (call : StoreCall) : (unit call).Spares := by
  by_cases reads : call.isRead
  · cases call <;> first | exact .of_eq fun _ _ => rfl | cases reads
  · exact spares_stepwise.unit reads

/-! ## Identity records -/

/-- A unit comes to the same whatever identity records there are, and leaves them alone. -/
def IgnoresUsers (x : Work α) : Prop :=
  ∀ b armed users, x (b.withUsers users) armed =
    ((x b armed).1.map fun (a, after) => (a, after.withUsers users), (x b armed).2)

theorem IgnoresUsers.bind {x : Work α} {f : α → Work β} (hx : x.IgnoresUsers)
    (hf : ∀ a, (f a).IgnoresUsers) : (x >>= f).IgnoresUsers := by
  intro b armed users
  rw [bind_apply, bind_apply, hx]
  rcases x b armed with ⟨e | ⟨a, b'⟩, armed'⟩
  · rfl
  · exact hf a b' armed' users

theorem ignoresUsers_stepwise : Stepwise IgnoresUsers where
  bind := IgnoresUsers.bind
  pure _ _ _ _ := rfl
  throw _ _ _ _ := rfl
  trip point b armed users := by
    unfold trip
    split <;> rfl
  newId _ _ _ := rfl
  readClock _ _ _ := rfl
  look {_ f} same hf b armed users := by
    show f (b.withUsers users) (b.withUsers users) armed = _
    rw [same]
    exact hf b b armed users
  modify {f} same b armed users := by
    show (Except.ok ((), f (b.withUsers users)), armed) = _
    rw [same]
    rfl

theorem unit_ignoresUsers {call : StoreCall} (writes : ¬ call.isRead) :
    (unit call).IgnoresUsers :=
  ignoresUsers_stepwise.unit writes

end Work

end WalletLedger.Memory
