import WalletLedger.Database.Basic
import WalletLedger.Store.Basic

/-!
# Transactions

A unit of work opens a transaction, which takes the write lock before the
first read, runs its steps and settles: it commits what the steps wrote, or
rolls all of it back. A deadline stops the steps between two statements; it
never stops the commit. The engine may refuse the commit.
-/

namespace WalletLedger.Database

open Query

/-- Where a deadline stops a unit of work: after how many statements it has
passed. -/
structure Cutoff where
  limit : Duration
  statements : Nat
deriving DecidableEq, Repr, Inhabited

/-- The cutoff of a deadline. One of no length has passed before the first
statement; the others are not reached. -/
def Cutoff.ofDeadline (deadline : Option Duration) : Option Cutoff :=
  deadline.bind fun limit => if limit.nanos = 0 then some ⟨limit, 0⟩ else none

/-- What comes upon a unit of work: where a deadline stops its steps, and the
error with which the engine refuses to commit them. -/
structure Course where
  cutoff : Option Cutoff
  refusal : Option EngineError
deriving DecidableEq, Repr, Inhabited

/-- The course on which nothing is in the way. -/
def Course.smooth : Course := ⟨none, none⟩

/-- The course of a deadline, on which commits are taken. -/
def Course.ofDeadline (deadline : Option Duration) : Course :=
  ⟨Cutoff.ofDeadline deadline, none⟩

/-- An open transaction: the database as the steps have left it so far, and
the cutoff that is ahead of them. -/
structure Transaction where
  database : Database
  cutoff : Option Cutoff
deriving Inhabited

/-- Steps in a transaction. What a step wrote is there for the next one, and
also when a later one fails; to undo it is left to the end of the unit. -/
abbrev Work (α : Type) := ExceptT Failure (StateM Transaction) α

namespace Work

variable {α : Type}

/-- Ends the steps. -/
def refuse (e : LedgerError) : Work α :=
  throw (.refused e)

/-- The value that a lookup has to find. -/
def orRefuse (e : LedgerError) : Option α → Work α
  | some a => pure a
  | none => refuse e

/-- The result of an arithmetic step. -/
def compute (r : Except Abort α) : Work α :=
  ExceptT.mk (pure (Failure.ofArithmetic r))

/-- Goes on while the cutoff has not passed. -/
def tick : Work Unit := fun t =>
  match t.cutoff with
  | none => (.ok (), t)
  | some ⟨limit, 0⟩ => (.error (.refused (.ofDeadline limit)), t)
  | some ⟨limit, n + 1⟩ => (.ok (), { t with cutoff := some ⟨limit, n⟩ })

/-- A query on the database as the steps have left it so far. -/
def query (q : Query α) : Work α := fun t =>
  match q t.database with
  | .ok (a, db) => (.ok a, { t with database := db })
  | .error e => (.error (.refused (.ofDatabase e)), t)

/-- A query that counts as a statement. -/
def statement (q : Query α) : Work α := do
  tick
  query q

end Work

/-- Takes a connection and the write lock. -/
def begin : Query Unit := do
  acquire
  lockForWriting

/-- The database after a transaction that began on another was undone. -/
def Transaction.rollBack (t : Transaction) (begun : Database) : Database :=
  { t.database with tables := begun.tables, supply := begun.supply }

/-- Ends a transaction: the steps are committed, or undone when one failed or
the commit is refused. -/
def settle {α : Type} (begun : Database) (refusal : Option EngineError) :
    Except Failure α × Transaction → Except Failure α × Database
  | (.ok a, t) =>
    match refusal with
    | none => (.ok a, t.database)
    | some e => (.error (.refused (.ofDatabase (.ofEngine e))), t.rollBack begun)
  | (.error e, t) => (.error e, t.rollBack begun)

/-- A unit of work as an operation of the store. -/
def Work.attempt {α : Type} (course : Course) (work : Work α) :
    Attempt (StateM Database) α := fun db =>
  match begin db with
  | .ok (_, begun) => settle begun course.refusal (work ⟨begun, course.cutoff⟩)
  | .error e => (.error (.refused (.ofDatabase e)), db)

end WalletLedger.Database
