import WalletLedger.Database.Error
import WalletLedger.Outcome

/-!
# Which database failures are worth a retry

A failure of the database goes through two conversions before a caller hears of
it. The first one sorts the refusals of the engine by a result code and a text,
and looks for the lock of another connection before it looks for a broken
constraint (`marker?_ofRefusal`); the second one keeps the lock apart from all
else (`Breakdown.told`). A caller is told to try again exactly when the lock was
in the way, and learns nothing of the cause otherwise
(`retries_follow_lock_contention`).
-/

namespace WalletLedger

/-! ## What a caller is told -/

/-- An error tells of another writer: it is a conflict that is worth a retry. -/
structure LedgerError.TellsContention (e : LedgerError) : Prop where
  conflict : ∃ detail, e = .serializationConflict detail
  status : (Status.ofError e).code = 409
  retryable : e.isRetryable = true

/-- An error is a storage fault that is not worth a retry, and what goes on the
wire is the same whatever the fault was. -/
structure LedgerError.HidesFault (e : LedgerError) : Prop where
  storage : ∃ detail, e = .storage detail
  status : (Status.ofError e).code = 500
  final : e.isRetryable = false
  body : e.body = .object [
    Json.member "code" (Json.text "STORAGE_ERROR"),
    Json.member "message" (Json.text "storage operation failed")]

theorem LedgerError.serializationConflict_tells (detail : String) :
    (serializationConflict detail).TellsContention :=
  ⟨⟨detail, rfl⟩, rfl, rfl⟩

theorem LedgerError.storage_hides (detail : String) : (storage detail).HidesFault :=
  ⟨⟨detail, rfl⟩, rfl, rfl, rfl⟩

theorem LedgerError.HidesFault.not_tells {e : LedgerError} (hides : e.HidesFault) :
    ¬ e.TellsContention :=
  fun tells => Bool.noConfusion (hides.final.symm.trans tells.retryable)

/-! ## The lock of another connection -/

/-- A text names a 32-bit number whose low byte is 5 (busy) or 6 (locked). -/
def IsLockCode (code : String) : Prop :=
  ∃ word : Int32, Text.Numeral code.toList word.toInt ∧ (word &&& 0xff = 5 ∨ word &&& 0xff = 6)

/-- The low byte of a word is its remainder on division by 256, also below zero. -/
theorem toInt_low_byte (word : Int32) : (word &&& 0xff).toInt = word.toInt % 256 := by
  rw [← Int32.toInt_toBitVec, ← Int32.toInt_toBitVec, Int32.toBitVec_and]
  generalize word.toBitVec = bits
  show (bits &&& 255#32).toInt = _
  have masked : bits.toNat &&& (255#32).toNat = bits.toNat % 256 :=
    Nat.and_two_pow_sub_one_eq_mod bits.toNat 8
  have := bits.isLt
  rw [BitVec.toInt_eq_toNat_cond, BitVec.toInt_eq_toNat_cond, BitVec.toNat_and, masked]
  split <;> split <;> omega

theorem low_byte_eq_iff {word : Int32} {k : Int32} :
    word &&& 0xff = k ↔ word.toInt % 256 = k.toInt := by
  rw [← toInt_low_byte, Int32.toInt_inj]

theorem isLockCode_iff {code : Option String} :
    isLockCode code = true ↔ ∃ c, code = some c ∧ IsLockCode c := by
  unfold isLockCode IsLockCode
  simp only [low_byte_eq_iff]
  constructor
  · intro h
    split at h
    · next n read =>
      obtain ⟨c, rfl, read⟩ := Option.bind_eq_some_iff.mp read
      obtain ⟨names, low, high⟩ := Text.readInt?_eq_some_iff.mp read
      have word : (Int32.ofInt n).toInt = n :=
        Int32.toInt_ofInt_of_le low (Int.lt_add_one_iff.mpr high)
      exact ⟨c, rfl, .ofInt n, word.symm ▸ names, by simpa [word] using h⟩
    · cases h
  · rintro ⟨c, rfl, word, names, low⟩
    have read : Text.readInt? Int32.minValue.toInt Int32.maxValue.toInt c = some word.toInt :=
      Text.readInt?_eq_some_iff.mpr ⟨names, word.le_toInt, word.toInt_le⟩
    rw [Option.bind_some, read]
    simpa using low

/-- A refusal tells of a lock: by its code, or by one of two phrases in its text. -/
def IsLocked (code : Option String) (text : String) : Prop :=
  (∃ c, code = some c ∧ IsLockCode c) ∨
    "database is locked".toList <:+: text.toList ∨
    "database table is locked".toList <:+: text.toList

theorem isLockContention_iff {code : Option String} {text : String} :
    isLockContention code text = true ↔ IsLocked code text := by
  simp only [isLockContention, Bool.or_eq_true, isLockCode_iff, Text.contains_iff, or_assoc,
    IsLocked]

/-! ## What the engine refuses -/

/-- The phrase by which the engine names the kind of constraint that is broken,
for the database errors that report one. -/
def DatabaseError.marker? : DatabaseError → Option String
  | .uniqueViolation _ _ => some "UNIQUE constraint failed"
  | .foreignKeyViolation _ => some "FOREIGN KEY constraint failed"
  | .checkViolation _ => some "CHECK constraint failed"
  | _ => none

theorem DatabaseError.ofRefusal_of_locked {code : Option String} {text : String}
    (locked : IsLocked code text) : ofRefusal code text = .busy text :=
  if_pos (isLockContention_iff.mpr locked)

/-- A constraint is reported only if no lock was in the way, and only under its phrase. -/
theorem DatabaseError.marker?_ofRefusal {code : Option String} {text marker : String}
    (reported : (ofRefusal code text).marker? = some marker) :
    ¬ IsLocked code text ∧ marker.toList <:+: text.toList := by
  unfold ofRefusal at reported
  split at reported
  · cases reported
  · next free =>
    refine ⟨fun locked => free (isLockContention_iff.mpr locked), Text.contains_iff.mp ?_⟩
    split at reported
    · next unique => exact Option.some.inj reported ▸ unique
    split at reported
    · next foreignKey => exact Option.some.inj reported ▸ foreignKey
    split at reported
    · next check => exact Option.some.inj reported ▸ check
    · cases reported

theorem LedgerError.ofRefusal_hides {code : Option String} {text : String}
    (free : ¬ IsLocked code text) : (ofDatabase (.ofRefusal code text)).HidesFault := by
  unfold DatabaseError.ofRefusal
  rw [if_neg fun contention => free (isLockContention_iff.mp contention)]
  split
  · exact storage_hides _
  split
  · exact storage_hides _
  split
  · exact storage_hides _
  · exact storage_hides _

/-! ## All failures -/

/-- A failure that the database layer is handed: one of the engine or its pool,
or one of bringing the schema up to date. -/
inductive Breakdown
  | engine (error : EngineError)
  | migration (error : MigrationError)
deriving DecidableEq, Repr

namespace Breakdown

/-- The database error that a failure is converted to. -/
def databaseError : Breakdown → DatabaseError
  | engine e => .ofEngine e
  | migration e => .ofMigration e

/-- The ledger error that a failure is converted to. -/
def ledgerError (b : Breakdown) : LedgerError :=
  .ofDatabase b.databaseError

/-- A failure is a refusal that tells of a lock. -/
def MeetsLock (b : Breakdown) : Prop :=
  ∃ code text, b = engine (.refused code text) ∧ IsLocked code text

theorem told_of_lock {b : Breakdown} (locked : b.MeetsLock) : b.ledgerError.TellsContention := by
  obtain ⟨code, text, rfl, locked⟩ := locked
  rw [ledgerError, databaseError, DatabaseError.ofEngine, DatabaseError.ofRefusal_of_locked locked]
  exact LedgerError.serializationConflict_tells text

theorem hidden_without_lock {b : Breakdown} (free : ¬ b.MeetsLock) : b.ledgerError.HidesFault := by
  cases b with
  | engine e =>
    cases e with
    | refused code text =>
      exact LedgerError.ofRefusal_hides fun locked => free ⟨code, text, rfl, locked⟩
    | _ => exact LedgerError.storage_hides _
  | migration e => exact LedgerError.storage_hides _

theorem marker?_eq_some {b : Breakdown} {marker : String}
    (reported : b.databaseError.marker? = some marker) :
    ∃ code text, b = engine (.refused code text) ∧ ¬ IsLocked code text ∧
      marker.toList <:+: text.toList := by
  cases b with
  | engine e =>
    cases e with
    | refused code text => exact ⟨code, text, rfl, DatabaseError.marker?_ofRefusal reported⟩
    | _ => cases reported
  | migration e => cases reported

end Breakdown

/-- Whatever fails in the database, the caller is told of a conflict that is worth
a retry exactly when the engine refused a statement for the lock of another
connection, and of a storage fault that is not worth one in every other case. A
broken constraint is reported only for a refusal without a lock whose text names
that kind of constraint. -/
theorem retries_follow_lock_contention (b : Breakdown) :
    (b.ledgerError.TellsContention ↔ b.MeetsLock) ∧
    (b.ledgerError.isRetryable = true ↔ b.MeetsLock) ∧
    ((Status.ofError b.ledgerError).code = 409 ↔ b.MeetsLock) ∧
    (b.ledgerError.HidesFault ↔ ¬ b.MeetsLock) ∧
    ∀ marker, b.databaseError.marker? = some marker →
      ∃ code text, b = .engine (.refused code text) ∧ ¬ IsLocked code text ∧
        marker.toList <:+: text.toList := by
  by_cases locked : b.MeetsLock
  · have tells := b.told_of_lock locked
    exact ⟨iff_of_true tells locked, iff_of_true tells.retryable locked,
      iff_of_true tells.status locked,
      iff_of_false (fun hides => hides.not_tells tells) (not_not_intro locked),
      fun _ => Breakdown.marker?_eq_some⟩
  · have hides := b.hidden_without_lock locked
    refine ⟨iff_of_false hides.not_tells locked, iff_of_false ?_ locked, iff_of_false ?_ locked,
      iff_of_true hides locked, fun _ => Breakdown.marker?_eq_some⟩
    · simp [hides.final]
    · simp [hides.status]

/-- An extended code for a busy database is worth a retry, and a broken rule on a
column is not. -/
theorem busy_snapshot_is_retried :
    (Breakdown.engine (.refused (some "517") "")).ledgerError.TellsContention ∧
    (Breakdown.engine (.refused (some "19")
      "CHECK constraint failed: balance >= 0")).ledgerError.HidesFault := by
  refine ⟨(retries_follow_lock_contention _).1.mpr
    ⟨_, _, rfl, isLockContention_iff.mp (by decide)⟩,
    (retries_follow_lock_contention _).2.2.2.1.mpr ?_⟩
  rintro ⟨code, text, refusal, locked⟩
  cases refusal
  exact absurd (isLockContention_iff.mpr locked) (by decide)

end WalletLedger
