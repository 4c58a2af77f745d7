import WalletLedger.Database.Store

/-!
# Steps of queries and units of work

Queries are put together from few steps, and units of work from queries. A
property that the steps have, and that passes to what is put together from
them, is one of every query and every unit of a database. What reads is covered
by `Query.Stepwise`, what writes to wallets and the ledger by
`Query.LedgerSteps`, what writes to the catalog as well by `Query.OpenSteps`,
and units of work by `Work.Stepwise`.
-/

namespace WalletLedger.Database

/-- The database with another table of users. -/
def withUsers (db : Database) (users : Option (List UserRow)) : Database :=
  { db with tables := { db.tables with users } }

/-! ## Queries -/

namespace Query

/-- A property that passes from steps to the queries that are put together from
them. The steps may look at the database, but not at the table of users. -/
structure Stepwise (P : ∀ {α : Type}, Query α → Prop) : Prop where
  bind : ∀ {α β : Type} {q : Query α} {f : α → Query β}, P q → (∀ a, P (f a)) → P (q >>= f)
  pure : ∀ {α : Type} (a : α), P (pure a)
  throw : ∀ {α : Type} (e : DatabaseError), P (throw e : Query α)
  look : ∀ {α : Type} {f : Database → Query α}, (∀ db users, f (db.withUsers users) = f db) →
    (∀ db, P (f db)) → P (get >>= f)

/-- The steps may also take identifiers and times, and write to wallets and to the ledger. -/
structure LedgerSteps (P : ∀ {α : Type}, Query α → Prop) : Prop extends Stepwise P where
  newId : P newId
  readClock : P readClock
  setWallets : ∀ rows, P (setWallets rows)
  setEntries : ∀ rows, P (setEntries rows)

/-- The steps may also write to the catalog, and name what collided. -/
structure OpenSteps (P : ∀ {α : Type}, Query α → Prop) : Prop extends LedgerSteps P where
  setProducts : ∀ rows, P (setProducts rows)
  naming : ∀ {α : Type} (value : String) {q : Query α}, P q → P (naming value q)

variable {α β : Type} {P : ∀ {α : Type}, Query α → Prop} {user id : String}

namespace Stepwise

variable (h : Stepwise P)
include h

theorem ofEngine (r : Except EngineError α) : P (ofEngine r) := by
  cases r
  · exact h.throw _
  · exact h.pure _

theorem ofExcept (r : Except DatabaseError α) : P (MonadExcept.ofExcept r : Query α) := by
  cases r
  · exact h.throw _
  · exact h.pure _

theorem acquire : P acquire := h.look (fun _ _ => rfl) fun _ => h.ofEngine _

theorem lockForWriting : P lockForWriting := h.look (fun _ _ => rfl) fun _ => h.ofEngine _

theorem passGuard (watch : Watch) : P (passGuard watch) := by
  refine h.look (fun _ _ => rfl) fun db => ?_
  split
  · split
    · exact h.throw _
    · exact h.pure _
  · exact h.pure _

theorem passChecks {Row : Type} (checks : List (Check Row)) (row : Row) :
    P (passChecks checks row) := by
  refine h.look (fun _ _ => rfl) fun db => ?_
  split
  · split
    · exact h.throw _
    · exact h.pure _
  · exact h.pure _

theorem passUnique (taken : Bool) (column : String) : P (passUnique taken column) := by
  cases taken
  · exact h.pure _
  · exact h.throw _

theorem passReferences (hold : Bool) : P (passReferences hold) := by
  cases hold
  · exact h.throw _
  · exact h.pure _

theorem rowsOf {Row : Type} (name : String) (rows : Option (List Row)) : P (rowsOf name rows) := by
  cases rows
  · exact h.throw _
  · exact h.pure _

theorem wallets : P wallets := h.look (fun _ _ => rfl) fun _ => h.rowsOf _ _

theorem products : P products := h.look (fun _ _ => rfl) fun _ => h.rowsOf _ _

theorem entries : P entries := h.look (fun _ _ => rfl) fun _ => h.rowsOf _ _

theorem updateRow {Row : Type} (watch : Option Watch) (checks : List (Check Row))
    (selects : Row → Bool) (change : Row → Row) (rows : List Row) :
    P (updateRow watch checks selects change rows) := by
  unfold Query.updateRow
  split
  · exact h.pure _
  · next row _ =>
    have rest (written : Bool) : P (if written then do
        Query.passChecks checks (change row)
        return (some (change row), rows.map fun r => if selects r then change r else r)
      else Pure.pure (none, rows)) := by
      split
      · exact h.bind (h.passChecks _ _) fun _ => h.pure _
      · exact h.pure _
    cases watch
    · exact h.bind (h.pure true) rest
    · exact h.bind (h.passGuard _) rest

/-- A query that asks for a connection, reads and then goes on. -/
theorem read {rows : Query β} {q : β → Query α} (reads : P rows) (rest : ∀ r, P (q r)) :
    P (Query.acquire >>= fun _ => rows >>= q) :=
  h.bind h.acquire fun _ => h.bind reads rest

theorem listProducts : P listProducts := h.read h.products fun _ => h.pure _

theorem productById : P (productById id) := h.read h.products fun _ => h.pure _

theorem listEntries : P listEntries := h.read h.entries fun _ => h.ofExcept _

theorem history : P (history user) :=
  h.read h.entries fun _ => h.bind h.wallets fun _ => h.ofExcept _

end Stepwise

namespace OpenSteps

variable (h : OpenSteps P)
include h

/-- A query that asks for the write lock, looks at the clock and then goes on. -/
theorem write {q : Timestamp → Query α} (rest : ∀ time, P (q time)) :
    P (Query.lockForWriting >>= fun _ => Query.readClock >>= q) :=
  h.bind h.lockForWriting fun _ => h.bind h.readClock rest

/-- A query that takes a new identifier besides. -/
theorem insert {q : String → Timestamp → Query α} (rest : ∀ id time, P (q id time)) :
    P (Query.lockForWriting >>= fun _ => Query.newId >>= fun id => Query.readClock >>= q id) :=
  h.bind h.lockForWriting fun _ => h.bind h.newId fun id => h.bind h.readClock (rest id)

theorem insertProduct (fields : NewProduct) : P (insertProduct fields) := by
  refine h.read h.products fun _ => h.insert fun _ _ => h.bind (h.passGuard _) fun written => ?_
  split
  · exact h.bind (h.passChecks _ _) fun _ => h.bind (h.setProducts _) fun _ => h.pure _
  · exact h.throw _

theorem updateProduct (fields : NewProduct) : P (updateProduct id fields) := by
  refine h.read h.products fun _ => h.write fun _ => ?_
  refine h.bind (h.updateRow _ _ _ _ _) fun (changed, _) => h.bind (h.setProducts _) fun _ => ?_
  cases changed
  · exact h.throw _
  · exact h.pure _

theorem deleteProduct : P (deleteProduct id) := by
  refine h.read h.products fun _ => h.write fun _ => ?_
  refine h.bind (h.updateRow _ _ _ _ _) fun (changed, _) => h.bind (h.setProducts _) fun _ => ?_
  cases changed
  · exact h.throw _
  · exact h.pure _

theorem createWallet : P (createWallet user) := by
  refine h.naming _ (h.read h.wallets fun _ => h.insert fun _ _ => ?_)
  refine h.bind (h.passGuard _) fun written => ?_
  split
  · refine h.bind (h.passChecks _ _) fun _ => h.bind (h.passUnique _ _) fun _ => ?_
    exact h.bind (h.setWallets _) fun _ => h.pure _
  · exact h.throw _

end OpenSteps

end Query

/-! ## Units of work -/

namespace Work

/-- A property that passes from steps to the units that are put together from
them, where the queries have a property of their own. -/
structure Stepwise (Q : ∀ {α : Type}, Query α → Prop) (P : ∀ {α : Type}, Work α → Prop) :
    Prop where
  queries : Query.LedgerSteps Q
  bind : ∀ {α β : Type} {x : Work α} {f : α → Work β}, P x → (∀ a, P (f a)) → P (x >>= f)
  pure : ∀ {α : Type} (a : α), P (pure a)
  throw : ∀ {α : Type} (e : Failure), P (throw e : Work α)
  tick : P tick
  query : ∀ {α : Type} {q : Query α}, Q q → P (query q)

namespace Stepwise

variable {α : Type} {Q : ∀ {α : Type}, Query α → Prop} {P : ∀ {α : Type}, Work α → Prop}
  {user id : String} (h : Stepwise Q P)
include h

theorem statement {q : Query α} (hq : Q q) : P (statement q) :=
  h.bind h.tick fun _ => h.query hq

theorem orRefuse (e : LedgerError) (found : Option α) : P (orRefuse e found) := by
  cases found
  · exact h.throw _
  · exact h.pure _

theorem compute (r : Except Abort α) : P (compute r) := by
  cases r
  · exact h.throw _
  · exact h.pure _

/-- Steps that may be refused before they go on. -/
theorem guard {c : Prop} [Decidable c] {e : LedgerError} {x : Unit → Work α} (hx : P (x ())) :
    P (if c then refuse e >>= x else x ()) := by
  split
  · exact h.bind (h.throw _) fun _ => hx
  · exact hx

theorem findWallet : P (findWallet user) :=
  h.bind (h.statement h.queries.wallets) fun _ => h.orRefuse _ _

theorem findProduct : P (findProduct id) :=
  h.bind (h.statement h.queries.products) fun _ => h.orRefuse _ _

/-- A statement that is told the time and has to touch a row. -/
theorem touches {Row : Type} {q : Timestamp → Query (Option Row)} (hq : ∀ time, Q (q time))
    (e : LedgerError) : P (Work.query Query.readClock >>= fun now => Work.statement (q now) >>=
      fun changed => if changed.isNone then refuse e else Pure.pure ()) := by
  refine h.bind (h.query h.queries.readClock) fun now => ?_
  refine h.bind (h.statement (hq now)) fun changed => ?_
  split
  · exact h.throw _
  · exact h.pure _

theorem writeBalance (balance : Money) : P (writeBalance id balance) := by
  have q := h.queries
  refine h.touches (fun _ => q.bind q.wallets fun _ => q.bind (q.updateRow _ _ _ _ _) fun _ => ?_) _
  exact q.bind (q.setWallets _) fun _ => q.pure _

theorem writeStock (write : ∀ rows, Q (Query.setProducts rows)) (stock : Int64) :
    P (writeStock id stock) := by
  have q := h.queries
  refine h.touches
    (fun _ => q.bind q.products fun _ => q.bind (q.updateRow _ _ _ _ _) fun _ => ?_) _
  exact q.bind (write _) fun _ => q.pure _

theorem append (kind : EntryKind) : P (append id kind) := by
  have q := h.queries
  refine h.bind (h.query q.newId) fun _ => h.bind (h.query q.readClock) fun _ => ?_
  refine h.statement (q.bind q.entries fun _ => q.bind (q.passGuard _) fun written => ?_)
  split
  · refine q.bind (q.passChecks _ _) fun _ => q.look (fun _ _ => rfl) fun _ => ?_
    refine q.bind (q.passReferences _) fun _ => ?_
    exact q.bind (q.setEntries _) fun _ => q.ofExcept _
  · exact q.throw _

theorem deposit (amount : Money) : P (deposit user amount) := by
  refine h.bind h.findWallet fun _ => h.bind (h.orRefuse _ _) fun _ => ?_
  exact h.bind (h.writeBalance _) fun _ => h.append _

theorem withdraw (amount : Money) : P (withdraw user amount) := by
  refine h.bind h.findWallet fun _ => h.guard (h.bind (h.compute _) fun _ => ?_)
  exact h.bind (h.writeBalance _) fun _ => h.append _

/-- What holds of the write to the stock has to be said, because more is written than wallets and
the ledger. -/
theorem purchase (writes : ∀ stock, P (Work.writeStock id stock)) (quantity : Int64) :
    P (purchase user id quantity) := by
  refine h.bind h.findWallet fun _ => h.bind h.findProduct fun _ => h.guard ?_
  refine h.bind (h.orRefuse _ _) fun _ => h.guard (h.bind (h.compute _) fun _ => ?_)
  refine h.bind (h.writeBalance _) fun _ => h.bind (h.compute _) fun _ => ?_
  exact h.bind (writes _) fun _ => h.append _

end Stepwise

end Work

end WalletLedger.Database
