import WalletLedger.Seed

/-!
# What scripts do to a database

A script `Yields` a goal on a database when it comes to its end, whatever lines were written
before it, and the goal holds of what it answers and of the database after it. A script is
followed by the rules of its steps; steps for one row after another are followed by an
invariant of the rows that were dealt with (`yields_forM`).
-/

namespace WalletLedger.Seed.Script

variable {α β : Type} {db db' : Database} {Q : α → Database → Prop}

/-- A script comes to its end, and the goal holds of its answer and of the database after it. -/
def Yields (x : Script α) (db : Database) (Q : α → Database → Prop) : Prop :=
  ∀ lines, ∃ a lines' db', x ⟨lines, db⟩ = (.ok a, ⟨lines', db'⟩) ∧ Q a db'

theorem Yields.mono {x : Script α} {Q' : α → Database → Prop} (h : x.Yields db Q)
    (le : ∀ a db, Q a db → Q' a db) : x.Yields db Q' := by
  intro lines
  obtain ⟨a, lines', db', run, goal⟩ := h lines
  exact ⟨a, lines', db', run, le a db' goal⟩

theorem yields_pure {a : α} (h : Q a db) : Yields (pure a) db Q :=
  fun lines => ⟨a, lines, db, rfl, h⟩

theorem yields_bind {x : Script β} {f : β → Script α}
    (h : x.Yields db fun b db => (f b).Yields db Q) : Yields (x >>= f) db Q := by
  intro lines
  obtain ⟨b, lines', db', run, rest⟩ := h lines
  obtain ⟨a, lines'', db'', goes, goal⟩ := rest lines'
  refine ⟨a, lines'', db'', ?_, goal⟩
  simp only [bind, ExceptT.bind, ExceptT.mk, StateT.bind, ExceptT.bindCont, run]
  exact goes

theorem yields_say {lines : List String} {Q : Unit → Database → Prop} (h : Q () db) :
    (say lines).Yields db Q :=
  fun _ => ⟨(), _, db, rfl, h⟩

theorem yields_take {x : Except String α} {a : α} (computed : x = .ok a) (h : Q a db) :
    (take x).Yields db Q :=
  computed ▸ yields_pure h

theorem yields_ask {q : Database.Query α} {a : α} (answers : q db = .ok (a, db')) (h : Q a db') :
    (ask q).Yields db Q := by
  intro lines
  refine ⟨a, lines, db', ?_, h⟩
  simp only [ask, answers]

theorem yields_serve {x : Attempt (StateM Database) (Outcome α)} {o : Outcome α}
    (answers : x db = (.ok o, db')) (h : Q o.data db') : (serve x).Yields db Q := by
  intro lines
  refine ⟨o.data, lines, db', ?_, h⟩
  simp only [serve, answers]

/-- What is done for one row after another keeps an invariant of the rows it was done for, if
it does for each row with those before it. -/
theorem yields_forM {rows : List α} {x : α → Script Unit} (holds : List α → Database → Prop)
    (first : holds [] db)
    (next : ∀ done row rest, rows = done ++ row :: rest → ∀ db, holds done db →
      (x row).Yields db fun _ db' => holds (done ++ [row]) db') :
    (rows.forM x).Yields db fun _ db' => holds rows db' := by
  have onward (done rest : List α) (eq : rows = done ++ rest) (db : Database) (h : holds done db) :
      (rest.forM x).Yields db fun _ db' => holds rows db' := by
    induction rest generalizing done db with
    | nil =>
      rw [List.append_nil] at eq
      exact yields_pure (eq ▸ h)
    | cons row rest ih =>
      refine yields_bind ((next done row rest eq db h).mono fun _ db' h' => ?_)
      exact ih (done ++ [row]) (by simpa using eq) db' h'
  exact onward [] rows rfl db first

/-! ## Scripts that stop -/

/-- A script stops with a line on the error output, and the goal holds of the database then. -/
def Stops (x : Script α) (db : Database) (line : String) (P : Database → Prop) : Prop :=
  ∀ lines, ∃ lines' db', x ⟨lines, db⟩ = (.error line, ⟨lines', db'⟩) ∧ P db'

variable {line : String} {P : Database → Prop}

/-- What comes after the stop is not done. -/
theorem stops_left {x : Script β} {f : β → Script α} (h : x.Stops db line P) :
    Stops (x >>= f) db line P := by
  intro lines
  obtain ⟨lines', db', run, goal⟩ := h lines
  refine ⟨lines', db', ?_, goal⟩
  simp only [bind, ExceptT.bind, ExceptT.mk, StateT.bind, ExceptT.bindCont, run]
  rfl

theorem stops_bind {x : Script β} {f : β → Script α}
    (h : x.Yields db fun b db => (f b).Stops db line P) : Stops (x >>= f) db line P := by
  intro lines
  obtain ⟨b, lines', db', run, rest⟩ := h lines
  obtain ⟨lines'', db'', stops, goal⟩ := rest lines'
  refine ⟨lines'', db'', ?_, goal⟩
  simp only [bind, ExceptT.bind, ExceptT.mk, StateT.bind, ExceptT.bindCont, run]
  exact stops

theorem stops_take {x : Except String α} {text : String} (failed : x = .error text) (h : P db) :
    (take x).Stops db ("Error: " ++ Text.quoted text) P := by
  subst failed
  exact fun lines => ⟨lines, db, rfl, h⟩

/-- Nothing is done for the rows after one that stops. -/
theorem stops_forM {x : α → Script Unit} {done rest : List α} {row : α}
    (h : (done.forM x).Yields db fun _ db => (x row).Stops db line P) :
    ((done ++ row :: rest).forM x).Stops db line P := by
  rw [List.forM_eq_forM, List.forM_append]
  exact stops_bind (h.mono fun _ _ stops => stops_left stops)

end WalletLedger.Seed.Script
