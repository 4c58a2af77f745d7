import WalletLedger.Proofs.Books.Balance
import WalletLedger.Proofs.Database.Atomicity
import WalletLedger.Proofs.Database.Insertions
import WalletLedger.Proofs.Memory.Store

/-!
# Reconciliation of a store with its ledger

A store without wallets, products and entries goes through calls of any kind
and outcome, while faults are armed, guards are put on tables, checks are
loosened, connections are taken away and users are registered. In every state
that it comes to, every balance is what the entries of the wallet add up to
(`balances_reconcile`).
-/

namespace WalletLedger

open Memory

/-! ## In memory -/

namespace Memory

/-- What may happen to a memory store. -/
inductive Event
  | call (pace : Pace) (limit : Option Duration) (call : StoreCall)
  | arm (fault : FaultPoint)
  | register (user : User)

/-- The world after an event. -/
def after (w : World Memory) : Event → World Memory
  | .call pace limit call => ((store pace).perform limit call w).2
  | .arm fault => ((arm fault).alone w).2
  | .register user => (Routine.alone (insertUser user) w).2

theorem after_sound {w : World Memory} (h : w.store.books.Sound) (event : Event) :
    (after w event).store.books.Sound := by
  cases event with
  | call pace limit call =>
    show ((store pace).perform limit call w).2.store.books.Sound
    have ending := perform_ending pace limit call w
    generalize (store pace).perform limit call w = r at ending ⊢
    obtain ⟨r, w'⟩ := r
    cases ending with
    | late => exact h
    | faulted => exact h
    | refused => exact h
    | answered result => exact h.respond result
  | arm fault => exact h
  | register user => exact h.withUsers _

theorem run_sound {w : World Memory} (h : w.store.books.Sound) (events : List Event) :
    (events.foldl after w).store.books.Sound := by
  induction events generalizing w with
  | nil => exact h
  | cons event events ih => exact ih (after_sound h event)

end Memory

/-! ## In a database -/

namespace Database

open Query

/-- What may happen to a database. -/
inductive Event
  | call (course : Course) (limit : Option Duration) (call : StoreCall)
  | surround (guards : List Guard) (enforced : Bool) (pool : Pool)
  | register (user : NewUser)

/-- The database after an event. -/
def after (db : Database) : Event → Database
  | .call course limit call => ((storeOn course).perform limit call db).2
  | .surround guards enforced pool => { db with guards, enforced, pool }
  | .register user => ((insertUser user).attempt db).2

/-- A database keeps sound books. -/
def IsSound (db : Database) : Prop := ∃ b, Keeps db b ∧ b.Sound

theorem perform_sound {db : Database} (h : db.IsSound) (course : Course)
    (limit : Option Duration) (call : StoreCall) :
    ((storeOn course).perform limit call db).2.IsSound := by
  obtain ⟨b, keeps, sound⟩ := h
  have follows : Follows False b call _ := perform_follows
    ⟨keeps, False.elim, False.elim⟩ sound.wellFormed course limit False.elim False.elim
  rcases run : (storeOn course).perform limit call db with ⟨e | reply, db'⟩
  · rw [perform_atomic course limit call db e db' run]
    exact ⟨b, keeps, sound⟩
  · rw [run] at follows
    obtain ⟨b', answered, stage⟩ := follows
    exact ⟨b', stage.keeps, sound.respond answered⟩

theorem register_sound {db : Database} (h : db.IsSound) (user : NewUser) :
    ((insertUser user).attempt db).2.IsSound := by
  obtain ⟨b, keeps, sound⟩ := h
  rcases keeps.register user with kept | ⟨users, kept⟩
  · exact ⟨b, kept, sound⟩
  · exact ⟨_, kept, (sound.spend 1 1).withUsers users⟩

theorem after_sound {db : Database} (h : db.IsSound) (event : Event) :
    (after db event).IsSound := by
  cases event with
  | call course limit call => exact perform_sound h course limit call
  | surround guards enforced pool =>
    obtain ⟨b, keeps, sound⟩ := h
    exact ⟨b, ⟨keeps.supply, keeps.users, keeps.wallets, keeps.products, keeps.entries⟩, sound⟩
  | register user => exact register_sound h user

theorem run_isSound {db : Database} (h : db.IsSound) (events : List Event) :
    (events.foldl after db).IsSound := by
  induction events generalizing db with
  | nil => exact h
  | cons event events ih => exact ih (after_sound h event)

end Database

/-! ## Runs -/

/-- In memory and in a database, after any events from a state without wallets,
products and entries, every balance is the sum of the wallet's deposits less
its withdrawals less its purchases, exactly. -/
theorem balances_reconcile :
    (∀ (users : List User) (supply : Supply) (fault : Option FaultPoint) (shelf : Shelf)
      (events : List Memory.Event),
      (events.foldl Memory.after
        ⟨⟨.opening users supply, fault⟩, shelf⟩).store.books.Reconciled) ∧
    ∀ (rows : List Database.UserRow) (supply : Supply) (guards : List Database.Guard)
      (enforced : Bool) (pool : Database.Pool) (events : List Database.Event),
      ∃ b, (events.foldl Database.after
        (.opening rows supply guards enforced pool)).books? = some b ∧ b.Reconciled := by
  refine ⟨fun users supply fault shelf events => ?_,
    fun rows supply guards enforced pool events => ?_⟩
  · have start : (Books.opening users supply).Sound := .opening users supply
    exact (Memory.run_sound (w := ⟨⟨.opening users supply, fault⟩, shelf⟩) start events).reconciled
  · have start : (Database.opening rows supply guards enforced pool).IsSound :=
      ⟨_, Database.opening_keeps rows supply guards enforced pool, .opening _ supply.inOrder⟩
    obtain ⟨b, keeps, sound⟩ := Database.run_isSound start events
    obtain ⟨articles, users, -, books⟩ := keeps.books?_eq
    exact ⟨_, books, sound.reconciled⟩

end WalletLedger
