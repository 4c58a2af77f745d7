import WalletLedger.Proofs.Chronicle
import WalletLedger.Proofs.Database.Overruns

/-!
# Subtractions overrun, and nothing else does

In every state that calls with any arguments lead a store to, a call that nothing
is in the way of aborts exactly if it is a withdrawal or a purchase that overruns
the books (`stores_abort_at_overruns`). What it was to leave is then too great,
never below zero, because less than nothing was to be moved; and the state stays
as it is.
-/

namespace WalletLedger

open Memory

namespace Conduct

variable {W M : Type}

/-- Calls made in a manner, each with the state to itself, abort where they overrun its books. -/
structure AbortsAtOverruns (c : Conduct W M) (manner : M) (w : W) (b : Books) : Prop where
  /-- A call aborts exactly if it is a movement that overruns, and then at a subtraction. -/
  aborts : ∀ call cause, (c.alone manner call w).1 = .error (.aborted cause) ↔
    cause = .subtraction ∧ ∃ m, call.movement? = some m ∧ b.Overruns m
  /-- A call that aborts leaves the state as it is. -/
  unchanged : ∀ call cause, (c.alone manner call w).1 = .error (.aborted cause) →
    (c.alone manner call w).2 = w
  /-- An answered movement leaves the differences that were taken. -/
  left : ∀ (m : Movement) reply w', c.alone manner m.call w = (.ok reply, w') →
    ∃ b', c.books? w' = some b' ∧ b'.leftovers m = b.remainders m

/-- A movement that overruns aborts, and that is all. -/
theorem AbortsAtOverruns.alone_eq {c : Conduct W M} {manner : M} {w : W} {b : Books}
    (h : c.AbortsAtOverruns manner w b) {m : Movement} (overrun : b.Overruns m) :
    c.alone manner m.call w = (.error (.aborted .subtraction), w) := by
  have aborted := (h.aborts m.call .subtraction).mpr ⟨rfl, m, by cases m <;> rfl, overrun⟩
  exact Prod.ext aborted (h.unchanged m.call _ aborted)

namespace Follows

variable {c : Conduct W M} {holds : W → Books → Prop} {w : W} {b shown : Books}

/-- In the books of a state the same is found as in those that it holds. -/
theorem shown_alike (follows : c.Follows holds) (held : holds w b) :
    ∃ shown, c.books? w = some shown ∧ b.FindsAlike shown := by
  obtain ⟨articles, users, same, books⟩ := follows.shown held
  exact ⟨_, books, fun _ => rfl, fun id => Database.product?_masked same id⟩

theorem abortsAtOverruns (follows : c.Follows holds) (held : holds w b) (wf : b.WellFormed)
    (alike : b.FindsAlike shown) (how : Manner) {manner : M}
    (same : ∀ call cause, (c.alone manner call w).1 = .error (.aborted cause) ↔
      b.respond how call = .error (.aborted cause))
    (kept : ∀ call e, (c.alone manner call w).1 = .error e → (c.alone manner call w).2 = w) :
    c.AbortsAtOverruns manner w shown := by
  refine ⟨fun call cause => ?_, fun call cause => kept call _, fun m reply w' answered => ?_⟩
  · simp only [same, Books.respond_aborted_iff, alike.overruns_iff]
  · have ended := c.ends_alone manner m.call w
    rw [answered] at ended
    obtain ⟨after, step, held'⟩ := follows.answered held wf ended
    obtain ⟨b', books, alike'⟩ := follows.shown_alike held'
    refine ⟨b', books, ?_⟩
    rw [alike'.leftovers_eq, alike.remainders_eq, step.leftovers_eq]

end Follows

end Conduct

/-! ## In memory -/

namespace Memory

variable {w : World Memory} {outcome : Except Failure (Reply × Books)} {e : Failure}

theorem conclude_error_iff : (conclude w outcome).1 = .error e ↔ outcome = .error e := by
  rcases outcome with e' | ⟨a, books⟩ <;> simp [conclude]

theorem conclude_of_error (failed : (conclude w outcome).1 = .error e) :
    (conclude w outcome).2 = w := by
  rw [conclude_error_iff.mp failed, conclude]

/-- Without a deadline and a fault, a call has the outcome that it has on the books. -/
theorem alone_eq (unarmed : w.store.fault = none) (latency : Duration) (limit : Option Duration)
    (call : StoreCall) : conduct.alone (⟨latency, none⟩, limit) call w =
      conclude w (w.store.books.respond manner call) :=
  perform_alone limit call (fun _ limited => absurd limited (by simp)) unarmed

end Memory

/-! ## Both stores -/

/-- From stores without wallets, products and entries, every run of calls with any arguments
leads to states in which calls that nothing is in the way of abort where they overrun. No
difference that a movement takes is below zero. It overruns if one is too great, for which
it has to move less than nothing. -/
theorem stores_abort_at_overruns :
    (∀ (users : List User) (supply : Supply) (fault : Option FaultPoint) (shelf : Shelf)
      (past : List Answered) (w : World Memory),
      Chronicle Memory.conduct ⟨⟨.opening users supply, fault⟩, shelf⟩ past w →
      w.store.fault = none → ∃ b, Memory.conduct.books? w = some b ∧
        ∀ latency limit, Memory.conduct.AbortsAtOverruns (⟨latency, none⟩, limit) w b) ∧
    (∀ (rows : List Database.UserRow) (supply : Supply) (guards : List Database.Guard)
      (enforced : Bool) (pool : Database.Pool) (past : List Answered) (db : Database),
      Chronicle Database.conduct (.opening rows supply guards enforced pool) past db →
      db.guards = [] → db.pool.IsFree → ∃ b, Database.conduct.books? db = some b ∧
        ∀ limit, Database.conduct.AbortsAtOverruns (.smooth, limit) db b) ∧
    ∀ (b : Books) (m : Movement), (∀ n ∈ b.remainders m, 0 ≤ n) ∧
      (b.Overruns m ↔ ∃ n ∈ b.remainders m, greatest < n) ∧ (b.Overruns m → b.MovesLess m) := by
  refine ⟨fun users supply fault shelf past w run unarmed => ?_,
    fun rows supply guards enforced pool past db run unguarded free => ?_,
    fun b m => ⟨b.remainders_nonneg m, Books.overruns_iff, Books.Overruns.movesLess⟩⟩
  · obtain ⟨b, held, wf⟩ := run.books Memory.follows (b := .opening users supply) rfl
      (Books.opening_wellFormed users supply)
    obtain ⟨shown, books, alike⟩ := Memory.follows.shown_alike held
    refine ⟨shown, books, fun latency limit =>
      Memory.follows.abortsAtOverruns held wf alike Memory.manner (fun call cause => ?_)
        fun call e failed => ?_⟩
    · rw [Memory.alone_eq unarmed, Memory.conclude_error_iff, held]
    · rw [Memory.alone_eq unarmed] at failed ⊢
      exact Memory.conclude_of_error failed
  · obtain ⟨b, held, wf⟩ := run.books Database.follows
      (Database.opening_keeps rows supply guards enforced pool)
      (Books.opening_wellFormed _ supply.inOrder)
    obtain ⟨shown, books, alike⟩ := Database.follows.shown_alike held
    refine ⟨shown, books, fun limit =>
      Database.follows.abortsAtOverruns held wf alike Database.manner ?_ ?_⟩
    · exact fun call cause =>
        Database.perform_aborted_iff ⟨held, fun _ => unguarded, fun _ => free⟩ wf limit
    · intro call e failed
      exact Database.perform_atomic .smooth limit call db e _ (Prod.ext failed rfl)

/-- Tea of which as many units are in stock as can be counted. -/
def boundlessTea : NewProduct := ⟨"Tea", "", ⟨250⟩, 9223372036854775807⟩

/-- A wallet and the product. -/
def boundlessCalls : List StoreCall := [.createWallet "u", .insertProduct boundlessTea]

/-- The movement that buys less than nothing of the product. -/
def lessThanNothing : Movement := .purchase "u" (Uuid.numbered 2) (-1)

/-- Less than nothing is bought of the product: the balance that is left can be counted, and
the stock cannot. In a database the balance was written by then, and is undone. -/
theorem purchase_of_less_aborts :
    (∃ past w b, Chronicle Memory.conduct ⟨⟨.opening [] .start, none⟩, .empty⟩ past w ∧
      w.store.fault = none ∧ Memory.conduct.books? w = some b ∧
      b.remainders lessThanNothing = [250, 9223372036854775808] ∧
      Memory.conduct.alone (.unlimited, none) lessThanNothing.call w =
        (.error (.aborted .subtraction), w)) ∧
    ∃ past db b,
      Chronicle Database.conduct (.opening [] .start [] true ⟨4, ⟨0⟩, true, false⟩) past db ∧
      db.guards = [] ∧ db.pool.IsFree ∧ Database.conduct.books? db = some b ∧
      b.remainders lessThanNothing = [250, 9223372036854775808] ∧
      Database.conduct.alone (.smooth, none) lessThanNothing.call db =
        (.error (.aborted .subtraction), db) := by
  have inMemory : Chronicle Memory.conduct ⟨⟨.opening [] .start, none⟩, .empty⟩ _ _ :=
    Chronicle.start.play (.unlimited, none) boundlessCalls
  have inDatabase : Chronicle Database.conduct (.opening [] .start [] true ⟨4, ⟨0⟩, true, false⟩)
      _ _ := Chronicle.start.play (.smooth, none) boundlessCalls
  have unarmed : (Memory.conduct.play (.unlimited, none) boundlessCalls
      ⟨⟨.opening [] .start, none⟩, .empty⟩).2.store.fault = none := by decide +kernel
  have unguarded : (Database.conduct.play (.smooth, none) boundlessCalls
      (.opening [] .start [] true ⟨4, ⟨0⟩, true, false⟩)).2.guards = [] := by decide +kernel
  have pool : (Database.conduct.play (.smooth, none) boundlessCalls
      (.opening [] .start [] true ⟨4, ⟨0⟩, true, false⟩)).2.pool = ⟨4, ⟨0⟩, true, false⟩ := by
    decide +kernel
  have free : (Database.conduct.play (.smooth, none) boundlessCalls
      (.opening [] .start [] true ⟨4, ⟨0⟩, true, false⟩)).2.pool.IsFree := by
    rw [pool]
    exact ⟨rfl, rfl⟩
  obtain ⟨b, books, aborts⟩ := stores_abort_at_overruns.1 _ _ _ _ _ _ inMemory unarmed
  obtain ⟨b', books', aborts'⟩ :=
    stores_abort_at_overruns.2.1 _ _ _ _ _ _ _ inDatabase unguarded free
  have left : ((Memory.conduct.books? (Memory.conduct.play (.unlimited, none) boundlessCalls
      ⟨⟨.opening [] .start, none⟩, .empty⟩).2).map (·.remainders lessThanNothing)) =
        some [250, 9223372036854775808] := by decide +kernel
  have left' : ((Database.conduct.books? (Database.conduct.play (.smooth, none) boundlessCalls
      (.opening [] .start [] true ⟨4, ⟨0⟩, true, false⟩)).2).map (·.remainders lessThanNothing)) =
        some [250, 9223372036854775808] := by decide +kernel
  rw [books, Option.map_some] at left
  rw [books', Option.map_some] at left'
  have overrun : b.Overruns lessThanNothing := Books.overruns_iff.mpr
    ⟨9223372036854775808, by simp [Option.some.inj left], by decide⟩
  have overrun' : b'.Overruns lessThanNothing := Books.overruns_iff.mpr
    ⟨9223372036854775808, by simp [Option.some.inj left'], by decide⟩
  exact ⟨⟨_, _, b, inMemory, unarmed, books, Option.some.inj left, (aborts _ _).alone_eq overrun⟩,
    _, _, b', inDatabase, unguarded, free, books', Option.some.inj left',
    (aborts' _).alone_eq overrun'⟩

end WalletLedger
