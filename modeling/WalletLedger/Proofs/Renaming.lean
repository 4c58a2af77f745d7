import WalletLedger.Proofs.Services.Checks
import WalletLedger.Proofs.Stamps
import WalletLedger.Service.Request
import Mathlib.Logic.Equiv.Basic
import Mathlib.Order.Monotone.Basic

/-!
# Renaming identifiers and times

What a store tells of its rows it tells under the identifiers and the times that
it was given. A `Renaming` puts others in their place, in rows, errors and
answers, and in what is asked about products. Names of users and their identity
records come from outside, so they stay as they are.

A renaming `Takes` one supply to another for as many requests as it takes what
the one gives them, in turn, to what the other gives. For supplies that give
UUIDs there always is one (`exists_swap`).
-/

namespace WalletLedger

/-- Other identifiers and other times. -/
structure Renaming where
  id : String → String
  time : Timestamp → Timestamp

namespace Renaming

variable (ρ : Renaming)

def wallet (w : Wallet) : Wallet :=
  { w with id := ρ.id w.id, createdAt := ρ.time w.createdAt, updatedAt := ρ.time w.updatedAt }

def product (p : Product) : Product :=
  { p with id := ρ.id p.id, createdAt := ρ.time p.createdAt, updatedAt := ρ.time p.updatedAt }

def article (a : Article) : Article := { a with product := ρ.product a.product }

def kind : EntryKind → EntryKind
  | .purchase id quantity amount => .purchase (ρ.id id) quantity amount
  | k => k

def entry (e : Entry) : Entry :=
  ⟨ρ.id e.id, ρ.id e.walletId, ρ.kind e.kind, ρ.time e.createdAt⟩

/-- An error, with the product and the wallet that it tells of renamed. -/
def error : LedgerError → LedgerError
  | .productNotFound id => .productNotFound (ρ.id id)
  | .insufficientStock id available requested =>
    .insufficientStock (ρ.id id) available requested
  | .walletAlreadyExists w => .walletAlreadyExists (ρ.wallet w)
  | e => e

def failure : Failure → Failure
  | .refused e => .refused (ρ.error e)
  | .aborted cause => .aborted cause

def reply : Reply → Reply
  | .wallet w => .wallet (ρ.wallet w)
  | .wallets ws => .wallets (ws.map ρ.wallet)
  | .product p => .product (ρ.product p)
  | .products ps => .products (ps.map ρ.product)
  | .entry e => .entry (ρ.entry e)
  | .entries es => .entries (es.map ρ.entry)
  | r => r

/-- What comes of something that can fail. -/
def result {α : Type} (rename : α → α) : Except Failure α → Except Failure α
  | .ok a => .ok (rename a)
  | .error e => .error (ρ.failure e)

/-- What a request is answered, with the same status. -/
def answer : Except Failure (Outcome Reply) → Except Failure (Outcome Reply) :=
  ρ.result (Outcome.map ρ.reply)

/-- A request, with the product that it is about renamed. -/
def request : Request → Request
  | .purchase user id quantity => .purchase user (ρ.id id) quantity
  | .getProduct id => .getProduct (ρ.id id)
  | .updateProduct id fields => .updateProduct (ρ.id id) fields
  | .deleteProduct id => .deleteProduct (ρ.id id)
  | r => r

@[simp] theorem wallet_id (w : Wallet) : (ρ.wallet w).id = ρ.id w.id := rfl
@[simp] theorem wallet_balance (w : Wallet) : (ρ.wallet w).balance = w.balance := rfl
@[simp] theorem product_price (p : Product) : (ρ.product p).price = p.price := rfl
@[simp] theorem product_stock (p : Product) : (ρ.product p).stock = p.stock := rfl

/-- An error is reported with the status and the code that it had. -/
theorem ofError_error (e : LedgerError) :
    Status.ofError (ρ.error e) = Status.ofError e ∧
      ErrorCode.ofError (ρ.error e) = ErrorCode.ofError e := by
  cases e <;> exact ⟨rfl, rfl⟩

/-- Looks at one clock stand for looks at another one in order, from one of either on. None of the
other clock is left out, and at most so many stand for what the look before them stands for. -/
structure Paces (one other spare : Nat) (look : Nat → Nat) : Prop where
  mono : Monotone look
  first : look one = other
  next : ∀ n, look (n + 1) ≤ look n + 1
  spared : ∀ n, n + other ≤ look n + one + spare

/-- A renaming takes what one supply gives to a number of requests to what another one gives. -/
structure Takes (s t : Supply) (requests : Nat) : Prop where
  /-- No two identifiers get one name, and every text is the name of one. -/
  bijective : Function.Bijective ρ.id
  /-- The identifiers that are given are renamed in turn, -/
  given : ∀ n < requests, ρ.id (s.source.id (s.ids + n)) = t.source.id (t.ids + n)
  /-- and no text that neither supply gives. -/
  others : ∀ id, (∀ n < requests, id ≠ s.source.id (s.ids + n) ∧ id ≠ t.source.id (t.ids + n)) →
    ρ.id id = id
  /-- The times of one clock are taken to those of the other in order. A request may have two of
  them taken to one, so they cannot be taken back. -/
  times : ∃ look, Paces s.looks t.looks requests look ∧
    ∀ n, ρ.time (s.source.instant n) = t.source.instant (look n)

end Renaming

/-- The next identifiers that a supply gives to a number of requests are spellings of UUIDs. -/
def Supply.WillSpellUuids (s : Supply) (requests : Nat) : Prop :=
  ∀ n < requests, Uuid.isSpelling (s.source.id (s.ids + n))

/-- Numbered identifiers are UUIDs as long as their numbers fit. -/
theorem Supply.willSpellUuids_counting {ids looks requests : Nat}
    (fits : ids + requests < Nat.pow 16 12) :
    (⟨.counting, ids, looks⟩ : Supply).WillSpellUuids requests := by
  intro n lt
  have hyphenated := Uuid.isHyphenated_numbered (n := ids + n + 1) (by omega)
  show Uuid.isSpelling (Uuid.numbered (ids + n + 1))
  simp only [Uuid.isSpelling, hyphenated, Bool.true_or]

/-- A permutation swaps the next identifiers of one supply for those of another one, in turn. It
renames nothing else, and renames a UUID to a UUID. -/
structure Supply.Swaps (s t : Supply) (requests : Nat) (swap : Equiv.Perm String) : Prop where
  given : ∀ n < requests, swap (s.source.id (s.ids + n)) = t.source.id (t.ids + n)
  others : ∀ id, (∀ n < requests, id ≠ s.source.id (s.ids + n) ∧ id ≠ t.source.id (t.ids + n)) →
    swap id = id
  uuid : ∀ id, Validation.uuid (swap id) = Validation.uuid id

/-- What the next identifier is renamed to so far is exchanged for the one it is to be renamed to.
Neither was given in turn before. -/
theorem Supply.Swaps.succ {s t : Supply} {m : Nat} {swap : Equiv.Perm String}
    (h : s.Swaps t m swap) (mine : Uuid.isSpelling (s.source.id (s.ids + m)))
    (yours : Uuid.isSpelling (t.source.id (t.ids + m))) :
    s.Swaps t (m + 1) (swap.trans
      (Equiv.swap (swap (s.source.id (s.ids + m))) (t.source.id (t.ids + m)))) := by
  generalize new : swap (s.source.id (s.ids + m)) = a
  refine ⟨fun n lt => ?_, fun id other => ?_, fun id => ?_⟩
  · rw [Equiv.trans_apply]
    rcases Nat.lt_succ_iff_lt_or_eq.mp lt with lt | rfl
    · have apart : t.source.id (t.ids + n) ≠ a := by
        rw [← new, ← h.given n lt, ne_eq, swap.injective.eq_iff]
        intro same
        have := s.source.id_injective same
        omega
      have apart' : t.source.id (t.ids + n) ≠ t.source.id (t.ids + m) := by
        intro same
        have := t.source.id_injective same
        omega
      rw [h.given n lt, Equiv.swap_apply_of_ne_of_ne apart apart']
    · rw [new, Equiv.swap_apply_left]
  · have fixed : swap id = id := h.others id fun n lt => other n (Nat.lt_succ_of_lt lt)
    obtain ⟨ne, ne'⟩ := other m (Nat.lt_succ_self m)
    have apart : id ≠ a := fun same => ne (swap.injective (fixed.trans (same.trans new.symm)))
    rw [Equiv.trans_apply, fixed, Equiv.swap_apply_of_ne_of_ne apart ne']
  · have left : Validation.uuid a = .ok () := new ▸ (h.uuid _).trans (uuid_id mine)
    have right : Validation.uuid (t.source.id (t.ids + m)) = .ok () := uuid_id yours
    rw [Equiv.trans_apply, ← h.uuid id]
    rcases eq_or_ne (swap id) a with same | ne
    · rw [same, Equiv.swap_apply_left, left, right]
    rcases eq_or_ne (swap id) (t.source.id (t.ids + m)) with same | ne'
    · rw [same, Equiv.swap_apply_right, left, right]
    · rw [Equiv.swap_apply_of_ne_of_ne ne ne']

/-- The identifiers of one supply can be swapped for those of another one. -/
theorem exists_swap {s t : Supply} {requests : Nat} (mine : s.WillSpellUuids requests)
    (yours : t.WillSpellUuids requests) : ∃ swap, s.Swaps t requests swap := by
  induction requests with
  | zero => exact ⟨Equiv.refl _, fun n lt => absurd lt n.not_lt_zero, fun _ _ => rfl, fun _ => rfl⟩
  | succ m ih =>
    obtain ⟨swap, swaps⟩ := ih (fun n lt => mine n (Nat.lt_succ_of_lt lt))
      fun n lt => yours n (Nat.lt_succ_of_lt lt)
    exact ⟨_, swaps.succ (mine m (Nat.lt_succ_self m)) (yours m (Nat.lt_succ_self m))⟩

end WalletLedger
