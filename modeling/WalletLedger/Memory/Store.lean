import WalletLedger.Memory.Steps
import WalletLedger.Store.Basic
import WalletLedger.World

/-!
# The memory store

A store that keeps its books in the process. Every operation waits for its
turn at the lock of the store. A write runs its unit of work on a copy of the
books when it obtains the lock, and the copy replaces the books when the turn
is over; a unit that fails gives the lock back at once. Writes to the ledger
hold the lock for the latency of the store and have to be over by its
deadline.
-/

namespace WalletLedger

/-- The memory store: its books, and the fault that is armed. -/
structure Memory where
  books : Memory.Books
  fault : Option Memory.FaultPoint
deriving Inhabited

namespace Memory

/-- A store without rows. -/
def empty : Memory := ⟨Books.empty, none⟩

/-- How long writes to the ledger hold the lock, and by when they have to be over. -/
structure Pace where
  latency : Duration
  deadline : Option Duration
deriving DecidableEq, Repr, Inhabited

/-- No latency and no deadline. -/
def Pace.unlimited : Pace := ⟨⟨0⟩, none⟩

/-- What a unit of work comes to: its answer and the books after it, or its
failure; and the fault that is armed after it. -/
def Work.attempt {α : Type} (work : Work α) (m : Memory) :
    Except Failure (α × Books) × Option FaultPoint :=
  work m.books m.fault

/-- A read, which may wait for its turn as long as a limit allows. -/
def read {α : Type} (limit : Option Duration) (answer : Books → α) :
    Attempt (Routine (World Memory)) α :=
  .turn {
      limit := limit.map (·.ticks)
      enter := id
      hold := fun _ => 0
      commit := fun _ w => w }
    (.done (.error (.refused (.ofDeadline (limit.getD ⟨0⟩)))))
    fun w => .done (.ok (answer w.store.books))

/-- A write that holds the lock for a latency and has to be over by a deadline. -/
def write {α : Type} (pace : Pace) (work : Work α) : Attempt (Routine (World Memory)) α :=
  .turn {
      limit := pace.deadline.map (·.ticks)
      enter := fun w => { w with store := { w.store with fault := (work.attempt w.store).2 } }
      hold := fun w =>
        match (work.attempt w.store).1 with
        | .ok _ => pace.latency.ticks
        | .error _ => 0
      commit := fun entry w =>
        match (work.attempt entry.store).1 with
        | .ok (_, books) => { w with store := { w.store with books } }
        | .error _ => w }
    (.done (.error (.refused (.ofDeadline (pace.deadline.getD ⟨0⟩)))))
    fun w => .done ((work.attempt w.store).1.map (·.1))

/-- The operations of the memory store, which take time. -/
def pacedStore (pace : Pace) : Store (Routine (World Memory)) where
  walletByUser limit user := read limit fun b => (b.wallet? user).map b.joined
  createWallet user := write .unlimited (Work.createWallet user)
  listWallets limit := read limit Books.listWallets
  listProducts limit := read limit Books.listProducts
  productById limit id := read limit (·.product? id)
  insertProduct p := write .unlimited (Work.insertProduct p)
  updateProduct id p := write .unlimited (Work.updateProduct id p)
  deleteProduct id := write .unlimited (Work.deleteProduct id)
  deposit user amount := write pace (Work.deposit user amount)
  withdraw user amount := write pace (Work.withdraw user amount)
  purchase user product quantity := write pace (Work.purchase user product quantity)
  history limit user := read limit (·.history user)
  listEntries limit := read limit Books.listEntries

/-- The operations of the memory store, one after another. -/
def store (pace : Pace) : Store (StateM (World Memory)) :=
  (pacedStore pace).map fun _ r => r.alone

/-! ## Beside the store -/

/-- Arms a fault: the next write to the ledger that reaches the step fails. -/
def arm (point : FaultPoint) : Routine (World Memory) Unit :=
  .turn {
      limit := none
      enter := fun w => { w with store := { w.store with fault := some point } }
      hold := fun _ => 0
      commit := fun _ w => w }
    (.done ()) fun _ => .done ()

/-- Registers an identity record as it is. -/
def insertUser (u : User) : Attempt (Routine (World Memory)) Unit :=
  write .unlimited (modify (·.putUser u))

/-- The number of entries. -/
def entryCount : Attempt (Routine (World Memory)) Nat :=
  read none (·.entries.length)

/-- The product of an identifier, whether it is live or not. -/
def rawProduct (id : String) : Attempt (Routine (World Memory)) (Option Product) :=
  read none fun b => (b.article? id).map (·.product)

end Memory

end WalletLedger
