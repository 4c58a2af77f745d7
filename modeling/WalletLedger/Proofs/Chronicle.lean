import WalletLedger.Proofs.Books.Ledger
import WalletLedger.Proofs.Database.Atomicity
import WalletLedger.Proofs.Database.Insertions
import WalletLedger.Proofs.Memory.Store

/-!
# Chronicles

A store goes through calls of any kind, in any manner and with any outcome, and
through whatever else happens to it. The chronicle of a run tells which calls
were answered, and how (`Chronicle`). A store that follows books goes from
state to state as `Books.Step` says, so what every step keeps of books and their
past holds at the end of every run (`Chronicle.keeps`). Both stores do
(`Memory.follows`, `Database.follows`).
-/

namespace WalletLedger

open Memory

/-- How a store, of states `W`, is used. Its calls are made in manners `M`. -/
structure Conduct (W M : Type) where
  /-- The books of a state. -/
  books? : W → Option Books
  /-- The outcome of a call that has the store to itself. -/
  alone : M → StoreCall → W → Except Failure Reply × W
  /-- The ways in which a call can end. -/
  ends : M → StoreCall → W → Except Failure Reply → W → Prop
  ends_alone : ∀ manner call w, ends manner call w (alone manner call w).1 (alone manner call w).2
  /-- What else may happen. -/
  happens : W → W → Prop
  /-- Whether reads get through. -/
  available : W → Prop

/-- A failure for want of time or of a connection. -/
def Failure.IsUnavailable (e : Failure) : Prop :=
  (∃ limit, e = .refused (.ofDeadline limit)) ∨
    ∃ cause, (cause = .poolTimedOut ∨ cause = .poolClosed) ∧
      e = .refused (.ofDatabase (.ofEngine cause))

section Chronicles

variable {W M : Type}

/-- The runs of a store from a start, with the calls that were answered, oldest first. -/
inductive Chronicle (c : Conduct W M) (start : W) : List Answered → W → Prop
  | start : Chronicle c start [] start
  | answered {past : List Answered} {w w' : W} {manner : M} {call : StoreCall} {reply : Reply}
      (earlier : Chronicle c start past w) (ended : c.ends manner call w (.ok reply) w') :
      Chronicle c start (past ++ [⟨call, reply⟩]) w'
  | failed {past : List Answered} {w w' : W} {manner : M} {call : StoreCall} {e : Failure}
      (earlier : Chronicle c start past w) (ended : c.ends manner call w (.error e) w') :
      Chronicle c start past w'
  | other {past : List Answered} {w w' : W} (earlier : Chronicle c start past w)
      (happened : c.happens w w') : Chronicle c start past w'

/-- Calls one after another, each with the store to itself: those that are answered, and
the state after all of them. -/
def Conduct.play (c : Conduct W M) (manner : M) : List StoreCall → W → List Answered × W
  | [], w => ([], w)
  | call :: calls, w =>
    match c.alone manner call w with
    | (.ok reply, w) => (⟨call, reply⟩ :: (c.play manner calls w).1, (c.play manner calls w).2)
    | (.error _, w) => c.play manner calls w

theorem Chronicle.play {c : Conduct W M} {start w : W} {past : List Answered}
    (earlier : Chronicle c start past w) (manner : M) (calls : List StoreCall) :
    Chronicle c start (past ++ (c.play manner calls w).1) (c.play manner calls w).2 := by
  induction calls generalizing past w with
  | nil => rwa [Conduct.play, List.append_nil]
  | cons call calls ih =>
    have ended := c.ends_alone manner call w
    unfold Conduct.play
    rcases outcome : c.alone manner call w with ⟨e | reply, w'⟩ <;> rw [outcome] at ended
    · exact ih (earlier.failed ended)
    · have rest := ih (earlier.answered ended)
      rwa [List.append_assoc, List.singleton_append] at rest

/-- Calls that are answered are steps of the books that states hold; those that fail, and all
else that happens, leave wallets, articles and entries alone; and reads are answered from
the books or fail for want of time or of a connection. -/
structure Conduct.Follows (c : Conduct W M) (holds : W → Books → Prop) : Prop where
  answered : ∀ {w w' b manner call reply}, holds w b → b.WellFormed →
    c.ends manner call w (.ok reply) w' → ∃ b', Books.Step b call reply b' ∧ holds w' b'
  failed : ∀ {w w' b manner call e}, holds w b → b.WellFormed →
    c.ends manner call w (.error e) w' → holds w' b ∧ c.books? w' = c.books? w
  other : ∀ {w w' b}, holds w b → b.WellFormed → c.happens w w' →
    ∃ users supply, holds w' { b with users, supply } ∧
      ({ b with users, supply } : Books).WellFormed
  unread : ∀ {w w' b manner call e}, holds w b → b.WellFormed → call.isRead →
    c.ends manner call w (.error e) w' → e.IsUnavailable
  reads : ∀ {w b manner call}, holds w b → b.WellFormed → call.isRead → c.available w →
    (c.alone manner call w).1 = .ok (b.answer call)
  shown : ∀ {w b}, holds w b → ∃ articles users,
    articles.map Article.masked = b.articles.map Article.masked ∧
      c.books? w = some { b with articles, users }

/-- However a call ends in a state, it is answered by this reply or fails for want of time or
of a connection; and when reads get through it is answered. -/
def Conduct.Answers (c : Conduct W M) (w : W) (call : StoreCall) (reply : Reply) : Prop :=
  (∀ manner r w', c.ends manner call w r w' →
    r = .ok reply ∨ ∃ e, r = .error e ∧ e.IsUnavailable) ∧
  (c.available w → ∀ manner, (c.alone manner call w).1 = .ok reply)

variable {c : Conduct W M} {start w : W} {holds : W → Books → Prop} {past : List Answered}

/-- A read is answered from the books. -/
theorem Conduct.Follows.answers (follows : c.Follows holds) {b : Books} (held : holds w b)
    (wf : b.WellFormed) {call : StoreCall} (reads : call.isRead) :
    c.Answers w call (b.answer call) := by
  refine ⟨fun manner r w' ended => ?_, fun free _ => follows.reads held wf reads free⟩
  rcases r with e | reply
  · exact .inr ⟨e, rfl, follows.unread held wf reads ended⟩
  · obtain ⟨b', step, -⟩ := follows.answered held wf ended
    exact .inl (by rw [step.of_read reads])

/-- What steps keep of books and of the answers that led to them, and what does
not depend on identity records, holds throughout a run. -/
theorem Chronicle.keeps {P : List Answered → Books → Prop} (follows : c.Follows holds) {b : Books}
    (held : holds start b) (wf : b.WellFormed) (first : P [] b)
    (step : ∀ {past b call reply b'}, P past b → b.WellFormed → Books.Step b call reply b' →
      P (past ++ [⟨call, reply⟩]) b')
    (other : ∀ {past b} users supply, P past b → P past { b with users, supply })
    (run : Chronicle c start past w) : ∃ b, holds w b ∧ b.WellFormed ∧ P past b := by
  induction run with
  | start => exact ⟨b, held, wf, first⟩
  | answered _ ended ih =>
    obtain ⟨b, held, wf, kept⟩ := ih
    obtain ⟨b', taken, held'⟩ := follows.answered held wf ended
    exact ⟨b', held', taken.wellFormed wf, step kept wf taken⟩
  | failed _ ended ih =>
    obtain ⟨b, held, wf, kept⟩ := ih
    exact ⟨b, (follows.failed held wf ended).1, wf, kept⟩
  | other _ happened ih =>
    obtain ⟨b, held, wf, kept⟩ := ih
    obtain ⟨users, supply, held', wf'⟩ := follows.other held wf happened
    exact ⟨_, held', wf', other users supply kept⟩

/-- A run leads to a state that holds well-formed books. -/
theorem Chronicle.books (run : Chronicle c start past w) (follows : c.Follows holds) {b : Books}
    (held : holds start b) (wf : b.WellFormed) : ∃ b, holds w b ∧ b.WellFormed := by
  obtain ⟨b, held, wf, -⟩ := run.keeps (P := fun _ _ => True) follows held wf trivial
    (fun _ _ _ => trivial) fun _ _ _ => trivial
  exact ⟨b, held, wf⟩

/-- What calls and everything else keep of states that hold well-formed books holds throughout
a run. -/
theorem Chronicle.always {I : W → Prop} (follows : c.Follows holds) {b : Books}
    (held : holds start b) (wf : b.WellFormed) (first : I start)
    (ends : ∀ {w b manner call r w'}, holds w b → b.WellFormed → I w →
      c.ends manner call w r w' → I w')
    (other : ∀ {w w'}, I w → c.happens w w' → I w') (run : Chronicle c start past w) : I w := by
  induction run with
  | start => exact first
  | answered earlier ended ih =>
    obtain ⟨b, held, wf⟩ := earlier.books follows held wf
    exact ends held wf ih ended
  | failed earlier ended ih =>
    obtain ⟨b, held, wf⟩ := earlier.books follows held wf
    exact ends held wf ih ended
  | other _ happened ih => exact other ih happened

/-- A run that starts without entries leads to those that its answered calls returned. -/
theorem Chronicle.recorded (run : Chronicle c start past w) (follows : c.Follows holds) {b : Books}
    (held : holds start b) (wf : b.WellFormed) (empty : b.entries = []) :
    ∃ b, holds w b ∧ b.WellFormed ∧ b.entries = committed past :=
  run.keeps (P := fun past b => b.entries = committed past) follows held wf empty
    (fun recorded _ step => by rw [step.entries_eq, recorded, committed_concat])
    fun _ _ recorded => recorded

end Chronicles

/-! ## In memory -/

namespace Memory

/-- A memory store: its calls are made at a pace and with a limit, and may be kept waiting.
Beside them faults are armed, the cache is used and users are registered. -/
def conduct : Conduct (World Memory) (Pace × Option Duration) where
  books? w := some w.store.books
  alone manner call w := (store manner.1).perform manner.2 call w
  ends manner call w r w' := ((pacedStore manner.1).perform manner.2 call).Ends w r w'
  ends_alone manner call w := by
    rw [perform_eq_alone]
    exact Routine.ends_alone _ w
  happens w w' := w'.store.books = w.store.books ∨
    ∃ user, w' = (Routine.alone (insertUser user) w).2
  available _ := True

theorem follows : conduct.Follows fun w b => w.store.books = b where
  answered := by
    rintro w w' b manner call reply rfl - ended
    cases perform_ends ended with
    | answered result => exact ⟨_, Books.respond_step result, rfl⟩
  failed := by
    rintro w w' b manner call e rfl - ended
    cases perform_ends ended <;> exact ⟨rfl, rfl⟩
  other := by
    rintro w w' b rfl wf (same | ⟨user, rfl⟩)
    · exact ⟨_, _, same, wf⟩
    · exact ⟨_, _, rfl, wf.withUsers _⟩
  unread := by
    rintro w w' b ⟨pace, limit⟩ call e rfl - reads ended
    change ((pacedStore pace).perform limit call).Ends w (.error e) w' at ended
    rw [perform_read pace limit reads] at ended
    cases ended with
    | waited _ rest =>
      cases rest
      exact .inl ⟨_, rfl⟩
    | overran _ held => exact absurd held (by simp)
    | served rest => cases rest
  reads := by
    rintro w b ⟨pace, limit⟩ call rfl - reads -
    show ((store pace).perform limit call w).1 = _
    rw [perform_eq_alone, perform_read pace limit reads, read_alone]
  shown := by
    rintro w b rfl
    exact ⟨_, _, rfl, rfl⟩

end Memory

/-! ## In a database -/

namespace Database

open Query

/-- A database: its calls are made on a course and with a limit. Beside them guards are
put on tables, checks are loosened, connections are taken away and users are registered. -/
def conduct : Conduct Database (Course × Option Duration) where
  books? := books?
  alone manner call db := (storeOn manner.1).perform manner.2 call db
  ends manner call db r db' := (storeOn manner.1).perform manner.2 call db = (r, db')
  ends_alone _ _ _ := rfl
  happens db db' := (∃ guards enforced pool, db' = { db with guards, enforced, pool }) ∨
    ∃ user, db' = ((insertUser user).attempt db).2
  available db := db.pool.acquire = .ok ()

/-- A read that fails at a connection fails for want of one. -/
theorem read_unavailable {α β : Type} {q : Unit → Query α} {f : α → β} {limit : Option Duration}
    {db db' : Database} {e : Failure} {cause : EngineError}
    (hindered : db.pool.acquire = .error cause)
    (failed : (f <$> read limit (acquire >>= q) : Attempt (StateM Database) β) db =
      (.error e, db')) : e.IsUnavailable := by
  rw [Attempt.map_apply] at failed
  rcases read_eq_or_late limit (acquire >>= q) db with same | ⟨-, d, late⟩
  · have stopped : (acquire >>= q) db = .error (.ofEngine cause) := by
      show (ofEngine db.pool.acquire >>= q) db = _
      rw [hindered]
      rfl
    rw [same, answer, stopped] at failed
    cases failed
    refine .inr ⟨cause, ?_, rfl⟩
    unfold Pool.acquire at hindered
    split at hindered
    · cases hindered
      exact .inr rfl
    · split at hindered <;> cases hindered
      exact .inl rfl
  · rw [late] at failed
    cases failed
    exact .inl ⟨d, rfl⟩

theorem follows : conduct.Follows Keeps where
  answered := by
    rintro db db' b ⟨course, limit⟩ call reply keeps wf ended
    have follows : Follows False b call _ :=
      perform_follows ⟨keeps, False.elim, False.elim⟩ wf course limit False.elim False.elim
    rw [show (storeOn course).perform limit call db = _ from ended] at follows
    obtain ⟨b', result, stage⟩ := follows
    exact ⟨b', Books.respond_step result, stage.keeps⟩
  failed := by
    rintro db db' b ⟨course, limit⟩ call e keeps - ended
    obtain rfl := perform_atomic course limit call db e db' ended
    exact ⟨keeps, rfl⟩
  other := by
    rintro db db' b keeps wf (⟨guards, enforced, pool, rfl⟩ | ⟨user, rfl⟩)
    · exact ⟨b.users, b.supply,
        ⟨keeps.supply, keeps.users, keeps.wallets, keeps.products, keeps.entries⟩, wf⟩
    · rcases keeps.register user with kept | ⟨users, kept⟩
      · exact ⟨_, _, kept, wf⟩
      · exact ⟨_, _, kept, (wf.spend 1 1).withUsers users⟩
  unread := by
    rintro db db' b ⟨course, limit⟩ call e keeps wf reads ended
    change (storeOn course).perform limit call db = (.error e, db') at ended
    rcases acquired : db.pool.acquire with cause | _
    · cases call with
      | walletByUser user => exact read_unavailable acquired ended
      | listWallets => exact read_unavailable acquired ended
      | listProducts => exact read_unavailable acquired ended
      | productById id => exact read_unavailable acquired ended
      | history user => exact read_unavailable acquired ended
      | listEntries => exact read_unavailable acquired ended
      | _ => cases reads
    · rw [perform_reads ⟨keeps, fun _ => acquired⟩ wf course limit reads] at ended
      cases ended
  reads := by
    rintro db b ⟨course, limit⟩ call keeps wf reads acquired
    exact congrArg Prod.fst (perform_reads ⟨keeps, fun _ => acquired⟩ wf course limit reads)
  shown keeps := keeps.books?_eq

end Database

end WalletLedger
