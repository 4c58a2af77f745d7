import WalletLedger.Database.Repository
import WalletLedger.Proofs.Database.Enforcement
import WalletLedger.Proofs.Database.Insertions

/-!
# The schema holds

A migrated database goes through calls of its store and of its repositories with
any arguments, which nobody checked. In every state that it comes to the rows are
as the schema says (`schema_holds`). Nothing but the schema stands behind it: a
call that would break a check, repeat a unique value or refer to a missing row is
refused, and what its earlier statements wrote is undone.
-/

namespace WalletLedger.Database

open Memory Query

/-! ## What the schema says -/

/-- A row of the ledger moves more than nothing, and it has a product and a quantity
exactly if it is that of a purchase. -/
structure EntryRow.IsLawful (r : EntryRow) : Prop where
  amount : 0 < r.amount.value
  type : r.type = "deposit" ∨ r.type = "withdraw" ∨ r.type = "purchase"
  purchase : r.type = "purchase" →
    ∃ id quantity, r.productId = some id ∧ r.quantity = some quantity ∧ 0 < quantity.toInt
  other : r.type ≠ "purchase" → r.productId = none ∧ r.quantity = none

/-- Rows of the tables are as the schema says. -/
structure Lawful (users : List UserRow) (wallets : List Wallet) (products : List Article)
    (entries : List EntryRow) : Prop where
  usernames : (users.map (·.user.username)).Nodup
  emails : (users.map (·.user.email)).Nodup
  owners : (wallets.map (·.userId)).Nodup
  balances : ∀ w ∈ wallets, 0 ≤ w.balance.value
  prices : ∀ a ∈ products, 0 < a.product.price.value
  stocks : ∀ a ∈ products, 0 ≤ a.product.stock.toInt
  rows : ∀ r ∈ entries, r.IsLawful
  holders : ∀ r ∈ entries, ∃ w ∈ wallets, w.id = r.walletId
  goods : ∀ r ∈ entries, ∀ id, r.productId = some id → ∃ a ∈ products, a.product.id = id

theorem isLawful_ofEntry {e : Entry} (amount : 0 < e.kind.amount.value)
    (quantity : ∀ q, e.kind.quantity? = some q → 0 < q.toInt) :
    (EntryRow.ofEntry e).IsLawful := by
  obtain ⟨id, walletId, kind, time⟩ := e
  cases kind with
  | deposit a =>
    have other : "deposit" ≠ "purchase" := by decide
    exact ⟨amount, .inl rfl, fun h => absurd h other, fun _ => ⟨rfl, rfl⟩⟩
  | withdraw a =>
    have other : "withdraw" ≠ "purchase" := by decide
    exact ⟨amount, .inr (.inl rfl), fun h => absurd h other, fun _ => ⟨rfl, rfl⟩⟩
  | purchase p q a =>
    exact ⟨amount, .inr (.inr rfl), fun _ => ⟨p, q, rfl, rfl, quantity q rfl⟩,
      fun h => absurd rfl h⟩

/-- A database enforces its checks and keeps books that are well formed and in bounds,
and no two of its users share a name or an address. -/
structure Upholds (db : Database) (b : Books) : Prop where
  keeps : Keeps db b
  wellFormed : b.WellFormed
  inBounds : b.InBounds
  enforced : db.enforced
  usernames : ∀ rows, db.tables.users = some rows → (rows.map (·.user.username)).Nodup
  emails : ∀ rows, db.tables.users = some rows → (rows.map (·.user.email)).Nodup

variable {db : Database} {b : Books}

theorem Upholds.lawful (h : Upholds db b) :
    ∃ users wallets products entries, db.tables.users = some users ∧
      db.tables.wallets = some wallets ∧ db.tables.products = some products ∧
      db.tables.entries = some entries ∧ Lawful users wallets products entries := by
  obtain ⟨users, usersThere, -⟩ := h.keeps.users
  obtain ⟨products, productsThere, same⟩ := h.keeps.products
  have inBounds : ({ b with articles := products, users := [] } : Books).InBounds :=
    inBounds_masked same h.inBounds
  have ids : products.map (·.product.id) = b.articles.map (·.product.id) :=
    map_masked masked_id same
  refine ⟨users, b.wallets, products, _, usersThere, h.keeps.wallets, productsThere,
    h.keeps.entries, h.usernames _ usersThere, h.emails _ usersThere, h.wellFormed.owners,
    inBounds.balances, inBounds.prices, inBounds.stocks, ?_, ?_, ?_⟩
  all_goals
    intro r mem
    obtain ⟨e, he, rfl⟩ := List.mem_map.mp mem
  · exact isLawful_ofEntry (inBounds.amounts e he) (inBounds.quantities e he)
  · exact List.mem_map.mp (h.wellFormed.holders e he)
  · intro id bought
    have there := h.wellFormed.goods e he id bought
    rw [← ids] at there
    exact List.mem_map.mp there

/-! ## What upholds it -/

/-- A query that only reads leads nowhere. -/
theorem Query.ReadsOnly.attempt_eq {α : Type} {q : Query α} (reads : q.ReadsOnly) :
    (q.attempt db).2 = db := by
  unfold Query.attempt
  rcases run : q db with e | ⟨a, db'⟩
  · rfl
  · exact reads db a db' run

/-- An operation of the store leads where its query does. -/
theorem map_answer_snd {α β : Type} (f : α → β) (q : Query α) (db : Database) :
    ((f <$> answer q : Attempt (StateM Database) β) db).2 = (q.attempt db).2 := by
  rw [Attempt.map_apply, answer, Query.attempt]
  rcases q db with e | ⟨a, db'⟩ <;> rfl

theorem perform_createWallet (user : String) :
    ((storeOn .smooth).perform none (.createWallet user) db).2 =
      ((createWallet user).attempt db).2 := by
  show ((Reply.wallet <$> makeWallet user : Attempt (StateM Database) Reply) db).2 = _
  rw [Attempt.map_apply, makeWallet, Query.attempt]
  rcases createWallet user db with e | ⟨w, db'⟩
  · cases e <;> rfl
  · rfl

namespace Upholds

/-- Calls of the store write no users. -/
theorem users_openFrame :
    OpenFrame fun db db' : Database => db'.tables.users = db.tables.users where
  refl _ := rfl
  trans h h' := h'.trans h
  supply _ _ := rfl
  wallets _ _ := rfl
  entries _ _ := rfl
  products _ _ := rfl

/-- A call of the store, on any course, whatever its arguments. -/
theorem perform (h : Upholds db b) (course : Course) (limit : Option Duration) (call : StoreCall) :
    ∃ b', Upholds ((storeOn course).perform limit call db).2 b' := by
  -- guards, locks and deadlines may be in the way, so nothing is promised about them
  have follows : Follows False b call _ := perform_follows
    ⟨h.keeps, False.elim, False.elim⟩ h.wellFormed course limit False.elim False.elim
  have confined := perform_confined course limit call db
  rcases run : (storeOn course).perform limit call db with ⟨e | reply, db'⟩ <;>
    rw [run] at follows confined
  · obtain rfl := perform_atomic course limit call db e db' run
    exact ⟨b, h⟩
  · obtain ⟨b', answered, stage⟩ := follows
    have step := Books.respond_step answered
    have users : db'.tables.users = db.tables.users :=
      perform_within users_openFrame course limit call db reply db' run
    exact ⟨b', stage.keeps, step.wellFormed h.wellFormed,
      step.inBounds (perform_checked h.enforced run) h.inBounds,
      confined.enforced.trans h.enforced, users ▸ h.usernames, users ▸ h.emails⟩

theorem nodup_append_row {rows : List UserRow} {row : UserRow} {f : UserRow → String}
    (old : (rows.map f).Nodup) (new : ∀ r ∈ rows, f r ≠ f row) :
    ((rows ++ [row]).map f).Nodup := by
  rw [List.map_append, List.nodup_append]
  refine ⟨old, List.nodup_singleton _, fun x hx y hy => ?_⟩
  obtain ⟨r, hr, rfl⟩ := List.mem_map.mp hx
  rw [List.mem_singleton.mp hy]
  exact new r hr

/-- A new user shares neither name nor address with another. -/
theorem register (h : Upholds db b) (u : NewUser) :
    ∃ b', Upholds ((insertUser u).attempt db).2 b' := by
  obtain ⟨b', keeps, wf, inBounds⟩ :
      ∃ b', Keeps ((insertUser u).attempt db).2 b' ∧ b'.WellFormed ∧ b'.InBounds := by
    rcases h.keeps.register u with kept | ⟨users, kept⟩
    · exact ⟨b, kept, h.wellFormed, h.inBounds⟩
    · exact ⟨_, kept, (h.wellFormed.spend 1 1).withUsers users, h.inBounds.balances,
        h.inBounds.prices, h.inBounds.stocks, h.inBounds.amounts, h.inBounds.quantities⟩
  unfold Query.attempt at keeps ⊢
  rcases run : insertUser u db with e | ⟨user, db'⟩
  · exact ⟨b, h⟩
  rw [run] at keeps
  obtain ⟨rows, there, newEmail, newName, email, name, -, rfl⟩ := insertUser_ok run
  refine ⟨b', keeps, wf, inBounds, h.enforced, ?_, ?_⟩
  · rintro _ ⟨⟩
    exact nodup_append_row (h.usernames rows there) fun r hr => name ▸ newName r hr
  · rintro _ ⟨⟩
    exact nodup_append_row (h.emails rows there) fun r hr => email ▸ newEmail r hr

/-- No rows are lost when the schema is brought up to date. -/
theorem migrate (h : Upholds db b) : ∃ b', Upholds (Database.migrate.attempt db).2 b' := by
  obtain ⟨users, usersThere, same⟩ := h.keeps.users
  obtain ⟨products, productsThere, masked⟩ := h.keeps.products
  have complete : Upholds { db with tables := db.tables.complete } b := by
    refine ⟨⟨h.keeps.supply, ⟨users, ?_, same⟩, ?_, ⟨products, ?_, masked⟩, ?_⟩, h.wellFormed,
      h.inBounds, h.enforced, ?_, ?_⟩
    all_goals simp only [Tables.complete, usersThere, h.keeps.wallets, productsThere,
      h.keeps.entries, Option.getD_some]
    · rintro _ ⟨⟩
      exact h.usernames users usersThere
    · rintro _ ⟨⟩
      exact h.emails users usersThere
  unfold Query.attempt
  rcases run : Database.migrate db with e | ⟨⟨⟩, db'⟩
  · exact ⟨b, h⟩
  · refine ⟨b, ?_⟩
    show Upholds db' b
    rw [migrate_ok run, Database.migrated]
    split
    · exact h
    · exact complete

/-- A query of the repositories changes nothing, or it leads where a call of the store,
a registration or a migration does. -/
theorem repository (h : Upholds db b) (call : RepositoryCall) :
    ∃ b', Upholds (call.after db) b' := by
  have reads {α : Type} {q : Query α} (reads : q.ReadsOnly) :
      ∃ b', Upholds (q.attempt db).2 b' := by
    rw [reads.attempt_eq]
    exact ⟨b, h⟩
  have writes {α : Type} {q : Query α} {f : α → Reply} (call : StoreCall)
      (same : (storeOn .smooth).perform none call = f <$> answer q) :
      ∃ b', Upholds (q.attempt db).2 b' := by
    have made := h.perform .smooth none call
    rwa [same, map_answer_snd] at made
  have steps := reads_stepwise
  cases call with
  | createWallet user =>
    have made := h.perform .smooth none (.createWallet user)
    rwa [perform_createWallet] at made
  | insertProduct p => exact writes (.insertProduct p) rfl
  | updateProduct id p => exact writes (.updateProduct id p) rfl
  | deleteProduct id => exact writes (.deleteProduct id) rfl
  | insertUser u => exact h.register u
  | migrate => exact h.migrate
  | walletByUser user => exact reads reads_walletByUser
  | listWallets => exact reads reads_listWallets
  | countWallets => exact reads (steps.read steps.wallets fun _ => steps.pure _)
  | productById id => exact reads steps.productById
  | listProducts => exact reads steps.listProducts
  | countProducts => exact reads (steps.read steps.products fun _ => steps.pure _)
  | history user => exact reads steps.history
  | listEntries => exact reads steps.listEntries
  | countEntries => exact reads (steps.read steps.entries fun _ => steps.pure _)
  | userById id => exact reads (steps.read reads_users fun _ => steps.pure _)
  | userByName username => exact reads (steps.read reads_users fun _ => steps.pure _)
  | countUsers => exact reads (steps.read reads_users fun _ => steps.pure _)
  | migrationStatus =>
    exact reads (steps.read reads_get fun _ => (steps.rowsOf _ _).bind fun _ => steps.pure _)

end Upholds

/-! ## Runs -/

/-- A call that nobody checked, of the store on some course or of the repositories; or
guards and connections are put in its way. -/
inductive RawCall
  | store (course : Course) (limit : Option Duration) (call : StoreCall)
  | repository (call : RepositoryCall)
  | surround (guards : List Guard) (pool : Pool)

/-- The database after a call. -/
def RawCall.after (db : Database) : RawCall → Database
  | .store course limit call => ((storeOn course).perform limit call db).2
  | .repository call => call.after db
  | .surround guards pool => { db with guards, pool }

theorem Upholds.after (h : Upholds db b) (call : RawCall) : ∃ b', Upholds (call.after db) b' := by
  cases call with
  | store course limit call => exact h.perform course limit call
  | repository call => exact h.repository call
  | surround guards pool =>
    exact ⟨b, ⟨h.keeps.supply, h.keeps.users, h.keeps.wallets, h.keeps.products, h.keeps.entries⟩,
      h.wellFormed, h.inBounds, h.enforced, h.usernames, h.emails⟩

theorem Upholds.run (h : Upholds db b) (calls : List RawCall) :
    ∃ b', Upholds (calls.foldl RawCall.after db) b' := by
  induction calls generalizing db b with
  | nil => exact ⟨b, h⟩
  | cons call calls ih =>
    obtain ⟨b', h'⟩ := h.after call
    exact ih h'

/-- A call of the store fails on every course and leaves the database as it is. -/
def Refuses (db : Database) (call : StoreCall) : Prop :=
  ∀ course limit, ∃ e, (storeOn course).perform limit call db = (.error e, db)

/-- Where checks are enforced, a call is refused that is not checked. -/
theorem refuses_of_unchecked (enforced : db.enforced) {call : StoreCall}
    (unchecked : ¬ call.Checked) : db.Refuses call := by
  intro course limit
  rcases run : (storeOn course).perform limit call db with ⟨e | reply, db'⟩
  · obtain rfl := perform_atomic course limit call db e db' run
    exact ⟨e, rfl⟩
  · exact absurd (perform_checked enforced run) unchecked

/-- A database is migrated and goes through raw calls. Then its rows are as the schema says,
and deposits, withdrawals and purchases of nothing, or of less, are refused. -/
theorem schema_holds {supply : Supply} {pool : Pool} {start : Database}
    (migrated : Database.migrate (blank supply pool) = .ok ((), start)) (calls : List RawCall) :
    ∃ users wallets products entries db, calls.foldl RawCall.after start = db ∧
      db.tables.users = some users ∧ db.tables.wallets = some wallets ∧
      db.tables.products = some products ∧ db.tables.entries = some entries ∧
      Lawful users wallets products entries ∧
      (∀ user amount, amount.value ≤ 0 → db.Refuses (.deposit user amount)) ∧
      (∀ user amount, amount.value ≤ 0 → db.Refuses (.withdraw user amount)) ∧
      ∀ user id quantity, quantity.toInt ≤ 0 → db.Refuses (.purchase user id quantity) := by
  have opened : Upholds start (.opening (liveUsers []) supply.inOrder) := by
    rw [migrate_ok migrated]
    refine ⟨Database.opening_keeps [] supply [] true pool,
      Books.opening_wellFormed _ supply.inOrder, Books.opening_inBounds _ supply.inOrder, rfl,
      ?_, ?_⟩
    · rintro _ ⟨⟩
      exact List.nodup_nil
    · rintro _ ⟨⟩
      exact List.nodup_nil
  obtain ⟨b, upholds⟩ := opened.run calls
  obtain ⟨users, wallets, products, entries, hu, hw, hp, he, lawful⟩ := upholds.lawful
  refine ⟨users, wallets, products, entries, _, rfl, hu, hw, hp, he, lawful, ?_, ?_, ?_⟩
  · exact fun _ _ nothing => refuses_of_unchecked upholds.enforced (Int.not_lt.mpr nothing)
  · exact fun _ _ nothing => refuses_of_unchecked upholds.enforced (Int.not_lt.mpr nothing)
  · exact fun _ _ _ nothing => refuses_of_unchecked upholds.enforced (Int.not_lt.mpr nothing)

/-- A wallet is made twice and money is put into it, less than nothing of it at first. -/
def carelessCalls : List RawCall :=
  [.repository (.createWallet "u"), .repository (.createWallet "u"),
    .store .smooth none (.deposit "u" ⟨-500⟩), .store .smooth none (.deposit "u" ⟨500⟩)]

/-- There is one wallet then, with one entry, and a withdrawal of nothing is still refused. -/
theorem careless_calls_are_refused :
    Database.migrate (blank .start ⟨4, ⟨0⟩, true, false⟩) =
        .ok ((), .opening [] .start [] true ⟨4, ⟨0⟩, true, false⟩) ∧
      ∃ users wallets products entries db,
        carelessCalls.foldl RawCall.after
          (.opening [] .start [] true ⟨4, ⟨0⟩, true, false⟩) = db ∧
        db.tables.wallets = some wallets ∧ db.tables.entries = some entries ∧
        wallets.map (·.balance.value) = [500] ∧ entries.map (·.amount.value) = [500] ∧
        Lawful users wallets products entries ∧ db.Refuses (.withdraw "u" ⟨0⟩) := by
  have migrated : Database.migrate (blank .start ⟨4, ⟨0⟩, true, false⟩) =
      .ok ((), .opening [] .start [] true ⟨4, ⟨0⟩, true, false⟩) := migrate_blank .start rfl rfl
  obtain ⟨users, wallets, products, entries, db, run, -, hw, -, he, lawful, -, refused, -⟩ :=
    schema_holds migrated carelessCalls
  have balances : db.tables.wallets.map (·.map (·.balance.value)) = some [500] := by
    rw [← run]
    decide +kernel
  have amounts : db.tables.entries.map (·.map (·.amount.value)) = some [500] := by
    rw [← run]
    decide +kernel
  rw [hw] at balances
  rw [he] at amounts
  exact ⟨migrated, users, wallets, products, entries, db, run, hw, he, Option.some.inj balances,
    Option.some.inj amounts, lawful, refused "u" ⟨0⟩ (Int.le_refl 0)⟩

end WalletLedger.Database
