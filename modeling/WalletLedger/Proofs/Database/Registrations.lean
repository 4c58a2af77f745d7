import WalletLedger.Proofs.Database.Queries
import WalletLedger.Proofs.Database.Rows

/-!
# Users that are registered

Two columns of the users hold no value twice. Where nothing is in the way, a
registration comes to the column in which the new user collides, that of the
address first, or to a new row under the next stamp (`attempt_insertUser`). The
identifiers of users who were only ever registered were drawn from the supply
(`Enrols`), so the new row is found again.

A collision is reported under the name of the new user, whatever the column.
Where the address is taken the report has the right column and the value of
another (`taken_address_is_reported_with_name`).
-/

namespace WalletLedger.Database

open Query

/-! ## Columns -/

/-- A column of the users in which no value stands twice. -/
inductive UserColumn
  | username
  | email
deriving DecidableEq, Repr

namespace UserColumn

/-- The name of a column. -/
def name : UserColumn → String
  | .username => "users.username"
  | .email => "users.email"

/-- The value of a row in a column. -/
def stored (r : UserRow) : UserColumn → String
  | .username => r.user.username
  | .email => r.user.email

/-- The value of a new user in a column. -/
def given (u : NewUser) : UserColumn → String
  | .username => u.username
  | .email => u.email

/-- The value of a new user stands in a column of the rows. -/
def Taken (rows : List UserRow) (u : NewUser) (c : UserColumn) : Prop :=
  ∃ r ∈ rows, c.stored r = c.given u

instance {rows : List UserRow} {u : NewUser} {c : UserColumn} : Decidable (c.Taken rows u) :=
  inferInstanceAs (Decidable (∃ r ∈ rows, c.stored r = c.given u))

/-- The column in which a collision is seen: the address is looked at before the name. -/
def collision? (rows : List UserRow) (u : NewUser) : Option UserColumn :=
  if UserColumn.email.Taken rows u then some .email
  else if UserColumn.username.Taken rows u then some .username
  else none

variable {rows : List UserRow} {u : NewUser}

theorem any_stored_iff {c : UserColumn} :
    (rows.any fun r => c.stored r == c.given u) = true ↔ c.Taken rows u := by
  simp [Taken]

theorem not_taken {c : UserColumn} (new : (rows.any fun r => c.stored r == c.given u) = false) :
    ¬ c.Taken rows u := by
  rw [← any_stored_iff, new]
  exact Bool.false_ne_true

theorem collision?_eq_none_iff : collision? rows u = none ↔ ∀ c : UserColumn, ¬ c.Taken rows u := by
  unfold collision?
  split_ifs with address other
  · simpa using ⟨_, address⟩
  · simpa using ⟨_, other⟩
  · exact iff_of_true rfl fun c => by cases c <;> assumption

/-- The column that is seen collides, and it is that of the address if this one does. -/
theorem collides {c : UserColumn} (seen : collision? rows u = some c) :
    c.Taken rows u ∧ (c = .email ↔ UserColumn.email.Taken rows u) := by
  unfold collision? at seen
  split_ifs at seen with address other <;> obtain rfl := Option.some.inj seen
  · exact ⟨address, iff_of_true rfl address⟩
  · exact ⟨other, iff_of_false nofun address⟩

end UserColumn

/-! ## Registration -/

/-- The record of a new user under a stamp. -/
def NewUser.record (u : NewUser) (stamp : Stamp) : User :=
  ⟨stamp.id, u.username, u.email, u.passwordHash, true, u.roleId, stamp.time, stamp.time⟩

variable {db : Database} {rows : List UserRow} {u : NewUser}

theorem ofRefusal_column (c : UserColumn) :
    DatabaseError.ofRefusal (some "2067") ("UNIQUE constraint failed: " ++ c.name) =
      .uniqueViolation c.name "unknown" := by
  cases c <;> decide +kernel

/-- A user was registered under the next stamp. -/
def enrol (db : Database) (rows : List UserRow) (u : NewUser) : Database :=
  { db with
    tables := { db.tables with
      users := some (rows ++ [⟨NewUser.record u db.supply.next, false⟩]) }
    supply := db.supply.spend 1 1 }

/-- What a registration comes to where nothing is in its way. -/
theorem attempt_insertUser (free : db.pool.IsFree) (there : db.tables.users = some rows) :
    (insertUser u).attempt db = match UserColumn.collision? rows u with
      | some c => (.error (.uniqueViolation c.name u.username), db)
      | none => (.ok (NewUser.record u db.supply.next), db.enrol rows u) := by
  have met : (insertUser u).Meets True db
      (fun user db' => UserColumn.collision? rows u = none ∧
        user = NewUser.record u db.supply.next ∧ db' = db.enrol rows u)
      fun e => ∃ c, UserColumn.collision? rows u = some c ∧
        e = .uniqueViolation c.name u.username := by
    have reported {c : UserColumn} (seen : UserColumn.collision? rows u = some c) :
        ∃ field, DatabaseError.ofRefusal (some "2067") ("UNIQUE constraint failed: " ++ c.name) =
            .uniqueViolation field "unknown" ∧
          ∃ c', UserColumn.collision? rows u = some c' ∧
            DatabaseError.uniqueViolation field u.username = .uniqueViolation c'.name u.username :=
      ⟨_, ofRefusal_column c, c, seen, rfl⟩
    refine meets_naming (meets_bind (meets_acquire (fun _ => free.1) (meets_bind ?_)))
    refine meets_users there (meets_bind (meets_lock (fun _ => free.2) ?_))
    refine meets_bind (meets_passUnique (fun stored _ => ?_) fun newEmail => ?_)
    · have address : UserColumn.email.Taken rows u := UserColumn.any_stored_iff.mp stored
      exact reported (c := .email) (if_pos address)
    have address : ¬ UserColumn.email.Taken rows u := UserColumn.not_taken newEmail
    refine meets_bind (meets_passUnique (fun stored _ => ?_) fun newName => ?_)
    · have other : UserColumn.username.Taken rows u := UserColumn.any_stored_iff.mp stored
      exact reported (c := .username) ((if_neg address).trans (if_pos other))
    have other : ¬ UserColumn.username.Taken rows u := UserColumn.not_taken newName
    refine meets_stamp (meets_bind (meets_modify (meets_pure ⟨?_, rfl, rfl⟩)))
    exact (if_neg address).trans (if_neg other)
  unfold Query.Meets at met
  unfold Query.attempt
  rcases run : insertUser u db with e | ⟨user, db'⟩ <;> rw [run] at met
  · obtain ⟨c, seen, rfl⟩ := met trivial
    rw [seen]
  · obtain ⟨vacant, rfl, rfl⟩ := met
    rw [vacant]

/-! ## Runs -/

/-- The database after a registration. -/
def registered (db : Database) (u : NewUser) : Database := ((insertUser u).attempt db).2

/-- Nothing is in the way of a registration, and the users have identifiers that were
taken from the supply. -/
structure Enrols (db : Database) (rows : List UserRow) : Prop where
  free : db.pool.IsFree
  users : db.tables.users = some rows
  stamped : ∃ stamps, Issued db.supply stamps ∧ rows.map (·.user.id) = stamps.map (·.id)

namespace Enrols

theorem opening (supply : Supply) (guards : List Guard) (enforced : Bool) {pool : Pool}
    (free : pool.IsFree) : Enrols (.opening [] supply guards enforced pool) [] :=
  ⟨free, rfl, [], .nil _, rfl⟩

/-- The next identifier is new. -/
theorem fresh (h : Enrols db rows) : ∀ r ∈ rows, r.user.id ≠ db.supply.next.id := by
  obtain ⟨stamps, issued, same⟩ := h.stamped
  intro r mem own
  refine issued.fresh (same ▸ ?_)
  exact own ▸ List.mem_map_of_mem mem

theorem enrol (h : Enrols db rows) (u : NewUser) :
    Enrols (db.enrol rows u) (rows ++ [⟨NewUser.record u db.supply.next, false⟩]) := by
  obtain ⟨stamps, issued, same⟩ := h.stamped
  refine ⟨h.free, rfl, stamps ++ [db.supply.next], issued.append Nat.zero_lt_one, ?_⟩
  simp [same, NewUser.record]

theorem registered (h : Enrols db rows) (u : NewUser) :
    ∃ rows', Enrols (db.registered u) rows' := by
  unfold Database.registered
  rw [attempt_insertUser h.free h.users]
  cases UserColumn.collision? rows u with
  | some c => exact ⟨rows, h⟩
  | none => exact ⟨_, h.enrol u⟩

theorem run (h : Enrols db rows) (us : List NewUser) :
    ∃ rows', Enrols (us.foldl Database.registered db) rows' := by
  induction us generalizing db rows with
  | nil => exact ⟨rows, h⟩
  | cons u us ih =>
    obtain ⟨rows', h'⟩ := h.registered u
    exact ih h'

/-- The live user that is selected is found, if no earlier one is selected. -/
theorem attempt_findUser {selects : User → Bool} {user : User}
    (h : Enrols db (rows ++ [⟨user, false⟩])) (others : ∀ r ∈ rows, selects r.user = false)
    (own : selects user = true) : (findUser selects).attempt db = (.ok (some user), db) := by
  have met : (findUser selects).Meets True db (fun found db' => found = some user ∧ db' = db)
      fun _ => False := by
    refine meets_bind (meets_acquire (fun _ => h.free.1) (meets_bind ?_))
    refine meets_users h.users (meets_pure ⟨?_, rfl⟩)
    have passed : (rows.find? fun r => selects r.user && !r.deleted) = none :=
      List.find?_eq_none.mpr fun r mem => by simp [others r mem]
    simp [passed, own]
  unfold Query.attempt
  rw [met.run_eq]

end Enrols

/-- Users are registered in a new database, one after another, and then another one. This
one is registered exactly if its values are new to both columns, and then it is found. Else
nothing is written, and the report has a column in which the user does collide. It has the
name of the user for its value, which is the value in that column exactly if the address is
not taken, or is the name. -/
theorem registrations_meet_what_is_taken (supply : Supply) (guards : List Guard) (enforced : Bool)
    {pool : Pool} (free : pool.IsFree) (past : List NewUser) (u : NewUser) :
    ∃ db rows, past.foldl registered (.opening [] supply guards enforced pool) = db ∧
      db.tables.users = some rows ∧
      ((∃ user db', (insertUser u).attempt db = (.ok user, db')) ↔
        ∀ c : UserColumn, ¬ c.Taken rows u) ∧
      (∀ user db', (insertUser u).attempt db = (.ok user, db') →
        (∃ stamp, user = NewUser.record u stamp) ∧
        db'.tables = { db.tables with users := some (rows ++ [⟨user, false⟩]) } ∧
        (userById user.id).attempt db' = (.ok (some user), db') ∧
        (userByName u.username).attempt db' = (.ok (some user), db')) ∧
      ∀ e db', (insertUser u).attempt db = (.error e, db') → db' = db ∧
        ∃ c : UserColumn, c.Taken rows u ∧ e = .uniqueViolation c.name u.username ∧
          (u.username = c.given u ↔ (UserColumn.email.Taken rows u → u.username = u.email)) := by
  obtain ⟨rows, enrols⟩ := (Enrols.opening supply guards enforced free).run past
  refine ⟨_, rows, rfl, enrols.users, ?_⟩
  generalize past.foldl registered (.opening [] supply guards enforced pool) = db at enrols ⊢
  have comes := attempt_insertUser (u := u) enrols.free enrols.users
  rcases seen : UserColumn.collision? rows u with _ | c <;> rw [seen] at comes <;> rw [comes]
  · have vacant := UserColumn.collision?_eq_none_iff.mp seen
    refine ⟨iff_of_true ⟨_, _, rfl⟩ vacant, ?_, ?_⟩
    · rintro user db' ⟨⟩
      refine ⟨⟨_, rfl⟩, rfl, ?_, ?_⟩
      · refine (enrols.enrol u).attempt_findUser (fun r mem => ?_) (by simp)
        exact beq_eq_false_iff_ne.mpr (enrols.fresh r mem)
      · refine (enrols.enrol u).attempt_findUser (fun r mem => ?_) (by simp [NewUser.record])
        exact beq_eq_false_iff_ne.mpr fun same => vacant .username ⟨r, mem, same⟩
    · rintro e db' ⟨⟩
  · obtain ⟨taken, which⟩ := UserColumn.collides seen
    refine ⟨iff_of_false ?_ fun vacant => vacant c taken, ?_, ?_⟩
    · rintro ⟨user, db', ⟨⟩⟩
    · rintro user db' ⟨⟩
    · rintro e db' ⟨⟩
      refine ⟨rfl, c, taken, rfl, ?_⟩
      rw [← which]
      cases c <;> simp [UserColumn.given]

/-- The first user of an address. -/
def ada : NewUser := ⟨"ada", "ada@example.com", "$argon2id$v=19$stub", User.userRole⟩

/-- Another user of the address. -/
def eve : NewUser := ⟨"eve", "ada@example.com", "$argon2id$v=19$stub", User.userRole⟩

/-- A new database, in which the first user of the address was registered. -/
def enrolledDatabase : Database :=
  registered (.opening [] .start [] true ⟨4, ⟨0⟩, true, false⟩) ada

theorem users_enrolledDatabase :
    enrolledDatabase.tables.users = some [⟨NewUser.record ada Supply.start.next, false⟩] := by
  decide +kernel

/-- The other user of the address is not registered. One with an address of its own is, and
is found by name. -/
theorem other_address_is_registered :
    (⟨4, ⟨0⟩, true, false⟩ : Pool).IsFree ∧
    (¬ ∃ user db', (insertUser eve).attempt enrolledDatabase = (.ok user, db')) ∧
    ∃ user db', (insertUser { eve with email := "" }).attempt enrolledDatabase =
        (.ok user, db') ∧ user.username = "eve" ∧ user.email = "" ∧
      (userByName "eve").attempt db' = (.ok (some user), db') := by
  have free : (⟨4, ⟨0⟩, true, false⟩ : Pool).IsFree := ⟨rfl, rfl⟩
  obtain ⟨_, rows, rfl, there, admitted, -, -⟩ :=
    registrations_meet_what_is_taken .start [] true free [ada] eve
  obtain ⟨_, rows', rfl, there', admitted', found, -⟩ :=
    registrations_meet_what_is_taken .start [] true free [ada] { eve with email := "" }
  obtain rfl := Option.some.inj (users_enrolledDatabase.symm.trans there)
  obtain rfl := Option.some.inj (users_enrolledDatabase.symm.trans there')
  refine ⟨free, fun made => admitted.mp made .email (by decide), ?_⟩
  obtain ⟨user, db', made⟩ := admitted'.mpr (fun c => by cases c <;> decide)
  obtain ⟨⟨stamp, rfl⟩, -, -, byName⟩ := found user db' made
  exact ⟨_, db', made, rfl, rfl, byName⟩

/-- The address is taken, and the report has its column with the name of the user. -/
theorem taken_address_is_reported_with_name :
    ((insertUser eve).attempt enrolledDatabase).1 =
        .error (.uniqueViolation "users.email" "eve") ∧
      ¬ ∃ c : UserColumn, ((insertUser eve).attempt enrolledDatabase).1 =
        .error (.uniqueViolation c.name (c.given eve)) := by
  rw [attempt_insertUser ⟨rfl, rfl⟩ users_enrolledDatabase]
  refine ⟨rfl, ?_⟩
  rintro ⟨c, same⟩
  cases c <;> exact absurd same (by decide)

end WalletLedger.Database
