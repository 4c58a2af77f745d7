import WalletLedger.Codec.Basic

/-!
# Caches

A cache holds texts under keys and may forget them. Values are cached as JSON;
an entry that cannot be read counts as missing.
-/

namespace WalletLedger

/-- The operations of a cache. -/
structure Cache (m : Type → Type) where
  /-- The text under a key. -/
  get : String → m (Option String)
  /-- Puts a text under a key. -/
  set : String → String → m Unit
  /-- Takes away what is under a key. -/
  delete : String → m Unit

/-- The texts that a cache in memory holds, newest first. -/
structure Shelf where
  texts : List (String × String)
deriving DecidableEq, Repr, Inhabited

namespace Shelf

/-- A shelf that holds nothing. -/
def empty : Shelf := ⟨[]⟩

/-- The text under a key. -/
def get? (s : Shelf) (key : String) : Option String :=
  s.texts.lookup key

/-- The shelf without a key. -/
def erase (s : Shelf) (key : String) : Shelf :=
  ⟨s.texts.filter fun (k, _) => k ≠ key⟩

/-- The shelf with a text under a key. -/
def insert (s : Shelf) (key text : String) : Shelf :=
  ⟨(key, text) :: (s.erase key).texts⟩

/-- Whether there is a text under a key. -/
def contains (s : Shelf) (key : String) : Bool :=
  (s.get? key).isSome

end Shelf

namespace Cache

variable {m n : Type → Type}

/-- The cache that holds nothing: reads miss and writes are dropped. A remote
cache that cannot be reached is no different. -/
def absent [Monad m] : Cache m where
  get _ := pure none
  set _ _ := pure ()
  delete _ := pure ()

/-- The cache that keeps every text until it is deleted. -/
def shelf : Cache (StateM Shelf) where
  get key := fun s => (s.get? key, s)
  set key text := fun s => ((), s.insert key text)
  delete key := fun s => ((), s.erase key)

/-- A cache whose operations are mapped to another monad. -/
def map (f : ∀ α, m α → n α) (c : Cache m) : Cache n where
  get key := f _ (c.get key)
  set key text := f _ (c.set key text)
  delete key := f _ (c.delete key)

/-! ## Keys -/

/-- The key of the list of all entries. -/
def entriesKey : String := "transactions"

/-- The key of the list of all wallets. -/
def walletsKey : String := "wallets"

/-- The key of the catalog. -/
def productsKey : String := "products"

/-- The key of one product. -/
def productKey (id : String) : String := "product/" ++ id

/-! ## Values -/

variable [Monad m] {α : Type} [Codec α]

/-- The value under a key, when its text can be read. -/
def find (c : Cache m) (key : String) : m (Option α) := do
  return (← c.get key).bind Codec.read?

/-- Puts a value under a key. -/
def put (c : Cache m) (key : String) (a : α) : m Unit :=
  c.set key (Codec.write a)

end Cache

end WalletLedger
