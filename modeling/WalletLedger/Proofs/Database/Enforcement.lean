import WalletLedger.Proofs.Books.Bounds
import WalletLedger.Proofs.Database.Confinement

/-!
# Checks that are enforced

On a database that enforces the checks of its schema no call is answered whose
row would break one, whoever makes the call: what is answered was `Checked`
(`perform_checked`). A query, or the steps of a unit of work, `Ensures` what
must hold where they answer. What comes before a check changes nothing but the
tables and the supply, so the checks are still enforced when their turn comes.
-/

namespace WalletLedger.Database

variable {α β : Type}

theorem Work.Confined.enforced {db db' : Database} (h : Work.Confined db db') :
    db'.enforced = db.enforced := by
  rw [show db' = _ from h]

/-! ## Queries -/

namespace Query

variable {c : α → Prop} {d : β → Prop} {q : Query α} {f : α → Query β}

/-- Where checks are enforced, what a query answers has a property. -/
def Ensures (c : α → Prop) (q : Query α) : Prop :=
  ∀ db a db', db.enforced → q db = .ok (a, db') → c a

theorem Ensures.bind (hq : q.Ensures c) (confined : q.Confined)
    (hf : ∀ a, c a → (f a).Ensures d) : (q >>= f).Ensures d := by
  intro db b db' enforced h
  simp only [Bind.bind, StateT.bind, Except.bind] at h
  rcases first : q db with e | ⟨a, db₁⟩ <;> rw [first] at h
  · cases h
  · have still : db₁.enforced := by rw [(confined db a db₁ first).enforced, enforced]
    exact hf a (hq db a db₁ enforced first) db₁ b db' still h

/-- What comes before need not ensure anything. -/
theorem Confined.ensures_bind (confined : q.Confined) (hf : ∀ a, (f a).Ensures d) :
    (q >>= f).Ensures d :=
  Ensures.bind (c := fun _ => True) (fun _ _ _ _ _ => trivial) confined fun a _ => hf a

theorem ReadsOnly.ensures_bind (reads : q.ReadsOnly) (hf : ∀ a, (f a).Ensures d) :
    (q >>= f).Ensures d :=
  Confined.ensures_bind (reads.within Work.confined_frame) hf

theorem ensures_of (h : ∀ a, c a) : q.Ensures c := fun _ a _ _ _ => h a

theorem ensures_fail (e : EngineError) : (fail e : Query α).Ensures c :=
  fun _ _ _ _ h => by cases h

theorem ensures_throw (e : DatabaseError) : (throw e : Query α).Ensures c :=
  fun _ _ _ _ h => by cases h

theorem ensures_passChecks {Row : Type} (checks : List (Check Row)) (row : Row) :
    (passChecks checks row).Ensures fun _ => ∀ c ∈ checks, c.holds row := by
  intro db a db' enforced h
  have met : (passChecks checks row).Meets False db (fun _ _ => ∀ c ∈ checks, c.holds row)
      fun _ => True := by
    refine meets_bind (meets_get ?_)
    rw [if_pos enforced]
    split
    · exact fun _ => trivial
    · next sound => exact firstBroken?_eq_none.mp sound
  exact met.of_ok h

/-- A row that was changed passed the checks. -/
theorem ensures_updateRow {Row : Type} (watch : Watch) (checks : List (Check Row))
    (selects : Row → Bool) (change : Row → Row) (rows : List Row) :
    (updateRow (some watch) checks selects change rows).Ensures fun r =>
      ∀ row, r.1 = some row → ∃ old, ∀ c ∈ checks, c.holds (change old) := by
  unfold updateRow
  split
  · exact fun _ _ _ _ h => by cases h; exact nofun
  · next old _ =>
    refine (reads_stepwise.passGuard watch).ensures_bind fun written => ?_
    cases written
    · exact fun _ _ _ _ h => by cases h; exact nofun
    · -- the checks read the row as it would be, not as it is
      refine (ensures_passChecks checks (change old)).bind
        (confined_openSteps.passChecks _ _) fun _ passed => ?_
      exact ensures_of fun _ _ _ => ⟨old, passed⟩

/-- A query that asks for a connection, reads and then goes on. -/
theorem ensures_read {rows : Query α} {q : α → Query β} (reads : rows.ReadsOnly)
    (rest : ∀ r, (q r).Ensures d) : (acquire >>= fun _ => rows >>= q).Ensures d :=
  reads_stepwise.acquire.ensures_bind fun _ => reads.ensures_bind rest

/-- A query that asks for the write lock, looks at the clock and then goes on. -/
theorem ensures_change {q : Timestamp → Query β} (rest : ∀ now, (q now).Ensures d) :
    (lockForWriting >>= fun _ => readClock >>= q).Ensures d :=
  reads_stepwise.lockForWriting.ensures_bind fun _ =>
    Confined.ensures_bind confined_openSteps.readClock rest

/-- A query that asks for the write lock, makes a stamp and then goes on. -/
theorem ensures_insert {q : String → Timestamp → Query β}
    (rest : ∀ id now, (q id now).Ensures d) :
    (lockForWriting >>= fun _ => newId >>= fun id => readClock >>= q id).Ensures d :=
  reads_stepwise.lockForWriting.ensures_bind fun _ =>
    Confined.ensures_bind confined_openSteps.newId fun id =>
      Confined.ensures_bind confined_openSteps.readClock (rest id)

end Query

open Query

theorem productChecks_bound {a : Article} (passed : ∀ c ∈ productChecks, c.holds a) :
    0 < a.product.price.value ∧ 0 ≤ a.product.stock.toInt := by
  simpa [productChecks, Money.isPositive] using passed

theorem ensures_insertProduct (fields : NewProduct) : (insertProduct fields).Ensures fun _ =>
    0 < fields.price.value ∧ 0 ≤ fields.stock.toInt := by
  refine ensures_read reads_stepwise.products fun _ => ensures_insert fun _ _ => ?_
  refine (reads_stepwise.passGuard _).ensures_bind fun written => ?_
  split
  · refine (ensures_passChecks _ _).bind (confined_openSteps.passChecks _ _)
      fun _ passed => ?_
    exact ensures_of fun _ => productChecks_bound passed
  · exact ensures_fail _

theorem ensures_updateProduct (id : String) (fields : NewProduct) :
    (updateProduct id fields).Ensures fun _ =>
      0 < fields.price.value ∧ 0 ≤ fields.stock.toInt := by
  refine ensures_read reads_stepwise.products fun _ => ensures_change fun _ => ?_
  refine (ensures_updateRow _ _ _ _ _).bind (confined_openSteps.updateRow _ _ _ _ _)
    fun (changed, rows) passed => ?_
  refine Confined.ensures_bind (confined_openSteps.setProducts rows) fun _ => ?_
  cases changed with
  | none => exact ensures_throw _
  | some row =>
    obtain ⟨old, sound⟩ := passed row rfl
    exact ensures_of fun _ => productChecks_bound sound

/-! ## Units of work -/

namespace Work

variable {c : Prop} {x : Work α} {f : α → Work β}

/-- Where checks are enforced, something holds if steps answer. -/
def Ensures (c : Prop) (x : Work α) : Prop :=
  ∀ t a t', t.database.enforced → x t = (.ok a, t') → c

theorem Within.ensures_bind (within : x.Within Confined) (hf : ∀ a, (f a).Ensures c) :
    (x >>= f).Ensures c := by
  intro t b t' enforced h
  have reached := within t
  rw [Attempt.bind_apply] at h
  rcases first : x t with ⟨e | a, t₁⟩ <;> rw [first] at h reached
  · cases h
  · exact hf a t₁ b t' (by rw [reached.enforced, enforced]) h

/-- Steps that may be refused before they go on. -/
theorem Ensures.guard {refused : Prop} [Decidable refused] {e : LedgerError}
    {x : Unit → Work α} (hx : (x ()).Ensures c) :
    (if refused then refuse e >>= x else x ()).Ensures c := by
  split
  · exact Within.ensures_bind (confined_stepwise.throw _) fun _ => hx
  · exact hx

theorem ensures_statement {q : Query α} (hq : q.Ensures fun _ => c) : (statement q).Ensures c := by
  refine Within.ensures_bind confined_stepwise.tick fun _ t a t' enforced h => ?_
  unfold query at h
  rcases run : q t.database with e | ⟨b, db⟩ <;> rw [run] at h
  · cases h
  · exact hq t.database b db enforced run

/-- An entry that is inserted moves more than nothing. -/
theorem ensures_insertEntry (stamp : Stamp) (walletId : String) (kind : EntryKind) :
    (statement (insertEntry stamp walletId kind)).Ensures
      (0 < kind.amount.value ∧ ∀ q, kind.quantity? = some q → 0 < q.toInt) := by
  refine ensures_statement (reads_stepwise.entries.ensures_bind fun _ => ?_)
  refine (reads_stepwise.passGuard _).ensures_bind fun written => ?_
  split
  · refine (ensures_passChecks _ _).bind (confined_openSteps.passChecks _ _)
      fun _ passed => ?_
    refine ensures_of fun _ => ?_
    obtain ⟨positive, -, shaped⟩ : (EntryRow.ofKind stamp walletId kind).amount.isPositive ∧ _ ∧
        (EntryRow.ofKind stamp walletId kind).isShaped := by
      simpa [entryChecks] using passed
    refine ⟨of_decide_eq_true positive, fun q quantity => ?_⟩
    cases kind with
    | purchase p q a =>
      cases quantity
      exact of_decide_eq_true shaped
    | _ => cases quantity
  · exact ensures_fail _

theorem ensures_append (walletId : String) (kind : EntryKind) :
    (append walletId kind).Ensures
      (0 < kind.amount.value ∧ ∀ q, kind.quantity? = some q → 0 < q.toInt) := by
  have steps := confined_stepwise
  refine Within.ensures_bind (steps.query steps.queries.newId) fun _ => ?_
  refine Within.ensures_bind (steps.query steps.queries.readClock) fun _ => ?_
  exact ensures_insertEntry _ _ _

theorem Ensures.mono {d : Prop} (h : x.Ensures c) (le : c → d) : x.Ensures d :=
  fun t a t' enforced run => le (h t a t' enforced run)

theorem ensures_deposit (user : String) (amount : Money) :
    (deposit user amount).Ensures (0 < amount.value) := by
  have steps := confined_stepwise
  refine Within.ensures_bind steps.findWallet fun _ => ?_
  refine Within.ensures_bind (steps.orRefuse _ _) fun _ => ?_
  refine Within.ensures_bind (steps.writeBalance _) fun _ => ?_
  exact (ensures_append _ _).mono And.left

theorem ensures_withdraw (user : String) (amount : Money) :
    (withdraw user amount).Ensures (0 < amount.value) := by
  have steps := confined_stepwise
  refine Within.ensures_bind steps.findWallet fun _ => .guard ?_
  refine Within.ensures_bind (steps.compute _) fun _ => ?_
  refine Within.ensures_bind (steps.writeBalance _) fun _ => ?_
  exact (ensures_append _ _).mono And.left

theorem ensures_purchase (user id : String) (quantity : Int64) :
    (purchase user id quantity).Ensures (0 < quantity.toInt) := by
  have steps := confined_stepwise
  refine Within.ensures_bind steps.findWallet fun _ => ?_
  refine Within.ensures_bind steps.findProduct fun _ => .guard ?_
  refine Within.ensures_bind (steps.orRefuse _ _) fun _ => .guard ?_
  refine Within.ensures_bind (steps.compute _) fun _ => ?_
  refine Within.ensures_bind (steps.writeBalance _) fun _ => ?_
  refine Within.ensures_bind (steps.compute _) fun _ => ?_
  refine Within.ensures_bind (steps.writeStock (fun _ => confined_openSteps.setProducts _) _)
    fun _ => ?_
  exact (ensures_append _ _).mono fun ⟨_, sound⟩ => sound quantity rfl

theorem ensures_attempt {db db' : Database} {course : Course} {a : α} (hx : x.Ensures c)
    (enforced : db.enforced) (h : x.attempt course db = (.ok a, db')) : c := by
  rcases attempt_cases x course db with ⟨-, e, refused⟩ | settled
  · rw [refused] at h
    cases h
  rw [settled] at h
  rcases run : x ⟨db, course.cutoff⟩ with ⟨e | b, t⟩ <;> rw [run] at h
  · cases h
  · exact hx ⟨db, course.cutoff⟩ b t enforced run

end Work

/-! ## Calls -/

/-- What a database with enforced checks answers was checked. -/
theorem perform_checked {db db' : Database} {course : Course} {limit : Option Duration}
    {call : StoreCall} {reply : Reply} (enforced : db.enforced)
    (answered : (storeOn course).perform limit call db = (.ok reply, db')) : call.Checked := by
  have query {α : Type} {q : Query α} {f : α → Reply} {c : Prop} (ensures : q.Ensures fun _ => c)
      (h : (f <$> answer q : Attempt (StateM Database) Reply) db = (.ok reply, db')) : c := by
    obtain ⟨a, run⟩ := map_ok h
    exact ensures db a db' enforced (answer_ok run)
  have unit {α : Type} {x : Work α} {f : α → Reply} {c : Prop} (ensures : x.Ensures c)
      (h : (f <$> x.attempt course : Attempt (StateM Database) Reply) db = (.ok reply, db')) :
      c := by
    obtain ⟨a, run⟩ := map_ok h
    exact Work.ensures_attempt ensures enforced run
  cases call with
  | insertProduct fields => exact query (ensures_insertProduct fields) answered
  | updateProduct id fields => exact query (ensures_updateProduct id fields) answered
  | deposit user amount => exact unit (Work.ensures_deposit user amount) answered
  | withdraw user amount => exact unit (Work.ensures_withdraw user amount) answered
  | purchase user id quantity => exact unit (Work.ensures_purchase user id quantity) answered
  | _ => trivial

end WalletLedger.Database
