import WalletLedger.Product
import WalletLedger.Uuid
import WalletLedger.Wallet

/-!
# Supplies

What a store takes from outside: new identifiers, the time, and the order in
which its hash maps yield their values. A `Source` tells what is given to one
that asks again and again, and promises little: no identifier comes twice and
none is blank, the clock goes forward, and a map loses nothing. A supply is a
source with what was taken from it so far. It is part of the state of a store,
so a change that is discarded gives back what it took.
-/

namespace WalletLedger

/-- What is given to a store from outside. -/
structure Source where
  /-- The identifiers, one after another. -/
  id : Nat → String
  /-- The times that the clock shows, one look after another. -/
  instant : Nat → Timestamp
  /-- The order in which a hash map of wallets yields them, whatever they are. -/
  walletOrder : List Wallet → List Wallet
  /-- The order in which a hash map of articles yields them. -/
  articleOrder : List Article → List Article
  id_injective : ∀ {m n}, id m = id n → m = n
  isBlankText_id : ∀ n, Text.isBlankText (id n) = false
  instant_le_iff : ∀ {m n}, instant m ≤ instant n ↔ m ≤ n
  walletOrder_perm : ∀ rows, (walletOrder rows).Perm rows
  articleOrder_perm : ∀ rows, (articleOrder rows).Perm rows

namespace Source

theorem mem_walletOrder {s : Source} {rows : List Wallet} {w : Wallet} :
    w ∈ s.walletOrder rows ↔ w ∈ rows :=
  (s.walletOrder_perm rows).mem_iff

theorem mem_articleOrder {s : Source} {rows : List Article} {a : Article} :
    a ∈ s.articleOrder rows ↔ a ∈ rows :=
  (s.articleOrder_perm rows).mem_iff

/-- The time from which the counting clock counts, in nanoseconds. -/
def epoch : Nat := 1767225600000000000

/-- The time a number of nanoseconds later. -/
def afterEpoch (n : Nat) : Timestamp :=
  ⟨(epoch + n) / 1000000000, (epoch + n) % 1000000000⟩

theorem afterEpoch_le_iff {m n : Nat} : afterEpoch m ≤ afterEpoch n ↔ m ≤ n := by
  show (_ < _ ∨ _ = _ ∧ _ ≤ _) ↔ _
  simp only [afterEpoch, epoch]
  omega

/-- Numbered identifiers, a clock that moves by a nanosecond, and maps that yield
their values as they were put in. -/
def counting : Source where
  id n := Uuid.numbered (n + 1)
  instant n := afterEpoch (n + 1)
  walletOrder rows := rows
  articleOrder rows := rows
  id_injective same := Nat.succ.inj (Uuid.numbered_injective same)
  isBlankText_id n := Uuid.isBlankText_numbered (n + 1)
  instant_le_iff := afterEpoch_le_iff.trans Nat.succ_le_succ_iff
  walletOrder_perm := List.Perm.refl
  articleOrder_perm := List.Perm.refl

end Source

/-- The identifier and the time under which a row is made. -/
structure Stamp where
  id : String
  time : Timestamp
deriving DecidableEq, Repr, Inhabited

/-- A source, the number of identifiers taken from it, and how often its clock was looked at. -/
structure Supply where
  source : Source
  ids : Nat
  looks : Nat

namespace Supply

/-- A supply from which nothing was taken. -/
def start : Supply := ⟨.counting, 0, 0⟩

instance : Inhabited Supply := ⟨start⟩

/-- A new identifier, and the supply without it. -/
def newId (s : Supply) : String × Supply :=
  (s.source.id s.ids, { s with ids := s.ids + 1 })

/-- The time, and the supply after the clock was looked at. -/
def readClock (s : Supply) : Timestamp × Supply :=
  (s.source.instant s.looks, { s with looks := s.looks + 1 })

end Supply

end WalletLedger
