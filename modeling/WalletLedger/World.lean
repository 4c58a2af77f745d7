import WalletLedger.Cache
import WalletLedger.Routine.Basic

/-!
# Worlds

The state of a store beside the state of the cache in memory. What works on
one of them works on the world and leaves the other alone.
-/

namespace WalletLedger

/-- The state of a store and the texts that the cache holds. -/
structure World (S : Type) where
  store : S
  shelf : Shelf
deriving Inhabited

namespace World

variable {S : Type}

/-- A computation on the store. -/
def onStore (α : Type) (x : StateM S α) : StateM (World S) α :=
  fun w => ((x w.store).1, { w with store := (x w.store).2 })

/-- A computation on the cache. -/
def onShelf (α : Type) (x : StateM Shelf α) : StateM (World S) α :=
  fun w => ((x w.shelf).1, { w with shelf := (x w.shelf).2 })

end World

/-- The cache of a world, for computations in order. -/
def Cache.inWorld {S : Type} : Cache (StateM (World S)) :=
  Cache.shelf.map World.onShelf

/-- The cache of a world, for routines. -/
def Cache.forRoutines {S : Type} : Cache (Routine (World S)) :=
  Cache.inWorld.map Routine.ofState

end WalletLedger
