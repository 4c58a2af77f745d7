import WalletLedger.Database.Migration
import WalletLedger.Proofs.Database.Steps
import WalletLedger.Proofs.Stamps

/-!
# What queries do

A query `Meets` a goal on a database when the goal holds of what it answers
and of the database after it, and of the error with which it fails while the
way is clear. Nothing is promised of an error while something may be in the
way: a pool without a connection, the lock of another, a guard or a check.
Each step of a query has a rule (`meets_acquire` and its companions), and a
query is followed by the rules of its steps.

What a query changes is `Within` a relation between the databases before and
after it. Most steps change nothing (`ReadsOnly`); the others are within every
relation that is a `Frame` of the ledger (`within_ledgerSteps`).
-/

namespace WalletLedger.Database

/-- A pool gives a connection and the write lock to whoever asks. -/
def Pool.IsFree (p : Pool) : Prop :=
  p.acquire = .ok () ∧ p.lockForWriting = .ok ()

namespace Query

variable {α β : Type} {clear : Prop} {db : Database} {P : DatabaseError → Prop}

/-- The goal `Q` holds of what a query answers, and `P` of its error if the way is clear. -/
def Meets (clear : Prop) (q : Query α) (db : Database) (Q : α → Database → Prop)
    (P : DatabaseError → Prop) : Prop :=
  match q db with
  | .ok (a, db) => Q a db
  | .error e => clear → P e

/-! ## Rules -/

section Rules

variable {Q : α → Database → Prop}

theorem meets_pure {a : α} (h : Q a db) : Meets clear (pure a) db Q P := h

theorem meets_throw {e : DatabaseError} (h : clear → P e) : Meets clear (throw e) db Q P := h

theorem meets_bind {q : Query β} {f : β → Query α}
    (h : Meets clear q db (fun b db => Meets clear (f b) db Q P) P) :
    Meets clear (q >>= f) db Q P := by
  unfold Meets at h ⊢
  simp only [bind, StateT.bind, Except.bind]
  rcases hq : q db with e | ⟨b, db'⟩ <;> rw [hq] at h <;> exact h

theorem Meets.mono {q : Query α} {Q' : α → Database → Prop} (h : Meets clear q db Q P)
    (le : ∀ a db, Q a db → Q' a db) : Meets clear q db Q' P := by
  unfold Meets at h ⊢
  rcases hq : q db with e | ⟨a, db'⟩ <;> rw [hq] at h
  · exact h
  · exact le _ _ h

/-- A goal that a query meets holds of what it answers. -/
theorem Meets.of_ok {q : Query α} (h : Meets clear q db Q P) {a : α} {db' : Database}
    (answered : q db = .ok (a, db')) : Q a db' := by
  unfold Meets at h
  rwa [answered] at h

/-- A query that cannot fail answers what it has to. -/
theorem Meets.run_eq {q : Query α} {a : α} {db' : Database}
    (h : q.Meets True db (fun a' d => a' = a ∧ d = db') fun _ => False) :
    q db = .ok (a, db') := by
  unfold Meets at h
  rcases run : q db with e | ⟨a', d⟩ <;> rw [run] at h
  · exact (h trivial).elim
  · obtain ⟨rfl, rfl⟩ := h
    rfl

theorem meets_get {Q : Database → Database → Prop} (h : Q db db) : Meets clear get db Q P := h

theorem meets_modify {f : Database → Database} {Q : Unit → Database → Prop} (h : Q () (f db)) :
    Meets clear (modify f) db Q P := h

theorem meets_newId {Q : String → Database → Prop}
    (h : Q db.supply.newId.1 { db with supply := db.supply.newId.2 }) :
    Meets clear newId db Q P := h

theorem meets_readClock {Q : Timestamp → Database → Prop}
    (h : Q db.supply.readClock.1 { db with supply := db.supply.readClock.2 }) :
    Meets clear readClock db Q P := h

/-- An identifier is taken, and then the clock is looked at. -/
theorem meets_stamp {next : String → Timestamp → Query α}
    (h : Meets clear (next db.supply.next.id db.supply.next.time)
      { db with supply := db.supply.spend 1 1 } Q P) :
    Meets clear (newId >>= fun id => readClock >>= next id) db Q P :=
  meets_bind (meets_newId (meets_bind (meets_readClock h)))

theorem meets_ofExcept {r : Except DatabaseError α} {a : α} (eq : r = .ok a) (h : Q a db) :
    Meets clear (ofExcept r) db Q P := by
  subst eq
  exact h

theorem meets_ofEngine {r : Except EngineError Unit} {Q : Unit → Database → Prop}
    (free : clear → r = .ok ()) (h : Q () db) : Meets clear (ofEngine r) db Q P := by
  rcases r with e | _
  · exact fun c => absurd (free c) (by simp)
  · exact h

theorem meets_acquire {Q : Unit → Database → Prop} (free : clear → db.pool.acquire = .ok ())
    (h : Q () db) : Meets clear acquire db Q P :=
  meets_bind (meets_get (meets_ofEngine free h))

theorem meets_lock {Q : Unit → Database → Prop} (free : clear → db.pool.lockForWriting = .ok ())
    (h : Q () db) : Meets clear lockForWriting db Q P :=
  meets_bind (meets_get (meets_ofEngine free h))

/-- A guard may stop a statement or pass over its row, unless the way is clear. -/
theorem meets_passGuard {watch : Watch} {Q : Bool → Database → Prop}
    (unguarded : clear → db.guards = []) (h : Q true db) (passed : ¬ clear → Q false db) :
    Meets clear (passGuard watch) db Q P := by
  refine meets_bind (meets_get ?_)
  split
  · next g found =>
    have hindered : ¬ clear := fun c => by simp [unguarded c] at found
    split
    · exact fun c => absurd c hindered
    · exact passed hindered
  · exact h

/-- A row that breaks a check is refused, if checks are enforced. -/
theorem meets_passChecks {Row : Type} {checks : List (Check Row)} {row : Row}
    {Q : Unit → Database → Prop} (sound : clear → firstBroken? checks row = none) (h : Q () db) :
    Meets clear (passChecks checks row) db Q P := by
  refine meets_bind (meets_get ?_)
  split
  · split
    · next broken => exact fun c => absurd (sound c) (by simp [broken])
    · exact h
  · exact h

theorem meets_passUnique {taken : Bool} {column : String} {Q : Unit → Database → Prop}
    (repeated : taken = true → clear →
      P (.ofRefusal (some "2067") ("UNIQUE constraint failed: " ++ column)))
    (h : taken = false → Q () db) : Meets clear (passUnique taken column) db Q P := by
  rcases taken with _ | _
  · exact h rfl
  · exact repeated rfl

/-- Where the way is clear, collisions are the only errors, and they are renamed. -/
theorem meets_naming {q : Query α} {value : String}
    (h : q.Meets clear db Q fun e =>
      ∃ field, e = .uniqueViolation field "unknown" ∧ P (.uniqueViolation field value)) :
    (naming value q).Meets clear db Q P := by
  unfold Meets at h ⊢
  unfold naming
  rcases hq : q db with e | ⟨a, db'⟩ <;> rw [hq] at h
  · by_cases c : clear
    · obtain ⟨field, rfl, named⟩ := h c
      exact fun _ => named
    · cases e <;> exact fun c' => absurd c' c
  · exact h

theorem meets_passReferences {hold : Bool} {Q : Unit → Database → Prop}
    (sound : clear → hold = true) (h : Q () db) : Meets clear (passReferences hold) db Q P := by
  rcases hold with _ | _
  · exact fun c => absurd (sound c) (by simp)
  · exact h

theorem meets_rowsOf {Row : Type} {name : String} {rows : Option (List Row)} {found : List Row}
    {Q : List Row → Database → Prop} (there : rows = some found) (h : Q found db) :
    Meets clear (rowsOf name rows) db Q P := by
  subst there
  exact h

theorem meets_users {rows : List UserRow} {Q : List UserRow → Database → Prop}
    (there : db.tables.users = some rows) (h : Q rows db) : Meets clear users db Q P :=
  meets_bind (meets_get (meets_rowsOf there h))

theorem meets_wallets {rows : List Wallet} {Q : List Wallet → Database → Prop}
    (there : db.tables.wallets = some rows) (h : Q rows db) : Meets clear wallets db Q P :=
  meets_bind (meets_get (meets_rowsOf there h))

theorem meets_products {rows : List Article} {Q : List Article → Database → Prop}
    (there : db.tables.products = some rows) (h : Q rows db) : Meets clear products db Q P :=
  meets_bind (meets_get (meets_rowsOf there h))

/-- Without its table the query fails, and nothing is promised unless the way is clear. -/
theorem meets_of_rowsOf {Row : Type} {name : String} {rows : Option (List Row)}
    {Q : List Row → Database → Prop} (h : ∀ found, rows = some found → Q found db) :
    Meets False (rowsOf name rows) db Q P := by
  rcases rows with _ | found
  · exact meets_throw False.elim
  · exact h found rfl

theorem meets_of_users {Q : List UserRow → Database → Prop}
    (h : ∀ rows, db.tables.users = some rows → Q rows db) : Meets False users db Q P :=
  meets_bind (meets_get (meets_of_rowsOf h))

theorem meets_of_wallets {Q : List Wallet → Database → Prop}
    (h : ∀ rows, db.tables.wallets = some rows → Q rows db) : Meets False wallets db Q P :=
  meets_bind (meets_get (meets_of_rowsOf h))

theorem meets_of_products {Q : List Article → Database → Prop}
    (h : ∀ rows, db.tables.products = some rows → Q rows db) : Meets False products db Q P :=
  meets_bind (meets_get (meets_of_rowsOf h))

theorem meets_entries {rows : List EntryRow} {Q : List EntryRow → Database → Prop}
    (there : db.tables.entries = some rows) (h : Q rows db) : Meets clear entries db Q P :=
  meets_bind (meets_get (meets_rowsOf there h))

/-- No row is selected, or the selected row is changed where nothing is in the way. -/
theorem meets_updateRow {Row : Type} {watch : Watch} {checks : List (Check Row)}
    {selects : Row → Bool} {change : Row → Row} {rows : List Row}
    {Q : Option Row × List Row → Database → Prop} (unguarded : clear → db.guards = [])
    (sound : clear → ∀ row, rows.find? selects = some row → firstBroken? checks (change row) = none)
    (missing : rows.find? selects = none → Q (none, rows) db)
    (changed : ∀ row, rows.find? selects = some row →
      Q (some (change row), rows.map fun r => if selects r then change r else r) db)
    (passed : ¬ clear → Q (none, rows) db) :
    Meets clear (updateRow (some watch) checks selects change rows) db Q P := by
  unfold updateRow
  split
  · next none_found => exact missing none_found
  · next row found =>
    refine meets_bind (meets_passGuard unguarded ?_ passed)
    exact meets_bind (meets_passChecks (fun c => sound c row found) (changed row found))

end Rules

/-! ## Queries that change nothing -/

/-- A query leaves the database as it was. -/
def ReadsOnly (q : Query α) : Prop :=
  ∀ db a db', q db = .ok (a, db') → db' = db

theorem ReadsOnly.bind {q : Query α} {f : α → Query β} (hq : q.ReadsOnly)
    (hf : ∀ a, (f a).ReadsOnly) : (q >>= f).ReadsOnly := by
  intro db b db' h
  simp only [Bind.bind, StateT.bind, Except.bind] at h
  rcases first : q db with e | ⟨a, db₁⟩ <;> rw [first] at h
  · cases h
  · rw [hf a db₁ b db' h, hq db a db₁ first]

theorem reads_get : (get : Query Database).ReadsOnly := fun _ _ _ h => by cases h; rfl

theorem reads_stepwise : Stepwise ReadsOnly where
  bind := ReadsOnly.bind
  pure _ _ _ _ h := by cases h; rfl
  throw _ _ _ _ h := by cases h
  look _ hf := ReadsOnly.bind reads_get hf

/-! ## What queries change -/

/-- Whatever a query changes is within a relation. -/
def Within (R : Database → Database → Prop) (q : Query α) : Prop :=
  ∀ db a db', q db = .ok (a, db') → R db db'

end Query

/-- A relation between a database and what it is changed to that allows draws
from the supply and writes to wallets and the ledger, one after another. -/
structure Frame (R : Database → Database → Prop) : Prop where
  refl : ∀ db, R db db
  trans : ∀ {db₁ db₂ db₃}, R db₁ db₂ → R db₂ db₃ → R db₁ db₃
  supply : ∀ db supply, R db { db with supply }
  wallets : ∀ db rows, R db { db with tables := { db.tables with wallets := some rows } }
  entries : ∀ db rows, R db { db with tables := { db.tables with entries := some rows } }

namespace Query

variable {R : Database → Database → Prop}

theorem ReadsOnly.within {q : Query α} (reads : q.ReadsOnly) (frame : Frame R) : q.Within R := by
  intro db a db' h
  rw [reads db a db' h]
  exact frame.refl db

theorem Within.bind {q : Query α} {f : α → Query β} (frame : Frame R) (hq : q.Within R)
    (hf : ∀ a, (f a).Within R) : (q >>= f).Within R := by
  intro db b db' h
  simp only [Bind.bind, StateT.bind, Except.bind] at h
  rcases first : q db with e | ⟨a, db₁⟩ <;> rw [first] at h
  · cases h
  · exact frame.trans (hq db a db₁ first) (hf a db₁ b db' h)

/-- What is read first does not matter to what is changed. -/
theorem ReadsOnly.within_bind {q : Query α} {f : α → Query β} (reads : q.ReadsOnly)
    (frame : Frame R) (hf : ∀ a, (f a).Within R) : (q >>= f).Within R :=
  Within.bind frame (reads.within frame) hf

theorem within_of_meets {q : Query α}
    (h : ∀ db, q.Meets False db (fun _ db' => R db db') fun _ => True) : q.Within R :=
  fun db _ _ answered => (h db).of_ok answered

theorem within_ledgerSteps (frame : Frame R) : LedgerSteps (Within R) where
  bind := Within.bind frame
  pure a := (reads_stepwise.pure a).within frame
  throw e := (reads_stepwise.throw e).within frame
  look _ hf := reads_get.within_bind frame hf
  newId _ _ _ h := by cases h; exact frame.supply _ _
  readClock _ _ _ h := by cases h; exact frame.supply _ _
  setWallets _ _ _ _ h := by cases h; exact frame.wallets _ _
  setEntries _ _ _ _ h := by cases h; exact frame.entries _ _

end Query

/-! ## Migrations -/

/-- The database with its schema brought up to date. -/
def migrated (db : Database) : Database :=
  if db.tables.migrations = some knownMigrations then db
  else { db with tables := db.tables.complete }

theorem prepareMigration_of_free {db : Database} (free : db.pool.IsFree) :
    db.prepareMigration = .ok () := by
  unfold prepareMigration
  rw [free.1, free.2]
  split <;> rfl

/-- Only a schema that is not up to date is changed, and nothing else can be in the way. -/
theorem meets_migrate {clear : Prop} {db : Database} {P : DatabaseError → Prop}
    (free : clear → db.pool.IsFree) :
    migrate.Meets clear db (fun _ db' => db' = db.migrated) P := by
  refine Query.meets_bind (Query.meets_get ?_)
  split
  · next hindered =>
    refine Query.meets_throw fun c => ?_
    rw [prepareMigration_of_free (free c)] at hindered
    cases hindered
  · by_cases known : db.tables.migrations = some knownMigrations
    · rw [if_neg (not_not_intro known)]
      exact (if_pos known).symm
    · rw [if_pos known]
      exact (if_neg known).symm

theorem migrate_ok {db db' : Database} (done : migrate db = .ok ((), db')) : db' = db.migrated :=
  Query.Meets.of_ok (meets_migrate (P := fun _ => True) False.elim) done

theorem migrate_eq {db : Database} (free : db.pool.IsFree) :
    migrate db = .ok ((), db.migrated) :=
  Query.Meets.run_eq ((meets_migrate fun _ => free).mono fun _ _ same => ⟨rfl, same⟩)

end WalletLedger.Database
