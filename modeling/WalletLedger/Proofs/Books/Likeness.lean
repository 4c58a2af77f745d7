import WalletLedger.Outcome
import WalletLedger.Proofs.Books.Step
import WalletLedger.Service.Request
import Mathlib.Data.List.Forall2

/-!
# What is alike in two runs

The same requests of one user are given other identifiers and times in another
run, and may be about other products. Which identifiers and which times belong
together is a matter of `Pairs`, and wallets, entries, errors, replies and
answers are alike when they differ in nothing but identifiers and times that
belong together, in the products that were purchased and in the identity record
that is joined. More pairs keep alike what was alike.
-/

namespace WalletLedger

/-! ## Identifiers and times that belong together -/

/-- Identifiers and times that belong together, the first of a pair from one run and the second
from another. -/
structure Pairs where
  ids : List (String × String)
  times : List (Timestamp × Timestamp)

namespace Pairs

variable {pairs later : Pairs} {i j : String} {s t : Timestamp}

/-- No pairs. -/
def none : Pairs := ⟨[], []⟩

/-- Identifiers belong together one to one, and so do times, which are in the same order in both
runs. -/
structure IsOrdered (pairs : Pairs) : Prop where
  ids : pairs.ids.Pairwise fun p q => p.1 ≠ q.1 ∧ p.2 ≠ q.2
  times : pairs.times.Pairwise fun p q => p.1.Precedes q.1 ∧ p.2.Precedes q.2

/-- There are more pairs later. -/
structure Within (pairs later : Pairs) : Prop where
  ids : pairs.ids ⊆ later.ids
  times : pairs.times ⊆ later.times

instance : HasSubset Pairs := ⟨Within⟩

theorem subset_refl (pairs : Pairs) : pairs ⊆ pairs :=
  ⟨List.Subset.refl _, List.Subset.refl _⟩

theorem subset_trans {last : Pairs} (h : pairs ⊆ later) (h' : later ⊆ last) : pairs ⊆ last :=
  ⟨List.Subset.trans h.ids h'.ids, List.Subset.trans h.times h'.times⟩

/-- The pairs with one more of identifiers and some more of times. -/
def add (pairs : Pairs) (i j : String) (times : List (Timestamp × Timestamp)) : Pairs :=
  ⟨pairs.ids ++ [(i, j)], pairs.times ++ times⟩

theorem subset_add (i j : String) (times : List (Timestamp × Timestamp)) :
    pairs ⊆ pairs.add i j times :=
  ⟨List.subset_append_left _ _, List.subset_append_left _ _⟩

/-- Two identifiers belong together. -/
def Ids (pairs : Pairs) (i j : String) : Prop := (i, j) ∈ pairs.ids

/-- Two times belong together. -/
def Times (pairs : Pairs) (s t : Timestamp) : Prop := (s, t) ∈ pairs.times

theorem Ids.mono (h : pairs.Ids i j) (sub : pairs ⊆ later) : later.Ids i j := sub.ids h

theorem Times.mono (h : pairs.Times s t) (sub : pairs ⊆ later) : later.Times s t := sub.times h

theorem ids_add (pairs : Pairs) (i j : String) (times : List (Timestamp × Timestamp)) :
    (pairs.add i j times).Ids i j :=
  List.mem_append_right _ (List.mem_singleton_self _)

theorem times_add (pairs : Pairs) (i j : String) {times : List (Timestamp × Timestamp)}
    (mem : (s, t) ∈ times) : (pairs.add i j times).Times s t :=
  List.mem_append_right _ mem

end Pairs

/-! ## Values alike -/

section Like

variable (goods : String → String → Prop) (pairs : Pairs)

/-- Wallets alike, whatever identity record is joined to them. -/
structure Wallet.Like (w w' : Wallet) : Prop where
  id : pairs.Ids w.id w'.id
  userId : w.userId = w'.userId
  balance : w.balance = w'.balance
  createdAt : pairs.Times w.createdAt w'.createdAt
  updatedAt : pairs.Times w.updatedAt w'.updatedAt

/-- Kinds of entries alike: only the product of a purchase may be another one. -/
inductive EntryKind.Like : EntryKind → EntryKind → Prop
  | deposit (amount : Money) : Like (.deposit amount) (.deposit amount)
  | withdraw (amount : Money) : Like (.withdraw amount) (.withdraw amount)
  | purchase {p p' : String} (same : goods p p') (quantity : Int64) (amount : Money) :
    Like (.purchase p quantity amount) (.purchase p' quantity amount)

/-- Entries alike. -/
structure Entry.Like (e e' : Entry) : Prop where
  id : pairs.Ids e.id e'.id
  walletId : pairs.Ids e.walletId e'.walletId
  kind : e.kind.Like goods e'.kind
  createdAt : pairs.Times e.createdAt e'.createdAt

/-- The product that an error names. -/
def LedgerError.productId? : LedgerError → Option String
  | .productNotFound p | .insufficientStock p _ _ => some p
  | _ => none

/-- Errors alike: they are equal, but for the wallet or the product that they name. -/
inductive LedgerError.Like : LedgerError → LedgerError → Prop
  | equal {e : LedgerError} (noWallet : e.wallet? = none) (noProduct : e.productId? = none) :
    Like e e
  | walletAlreadyExists {w w' : Wallet} (same : w.Like pairs w') :
    Like (.walletAlreadyExists w) (.walletAlreadyExists w')
  | productNotFound {p p' : String} (same : goods p p') :
    Like (.productNotFound p) (.productNotFound p')
  | insufficientStock {p p' : String} (same : goods p p') (available requested : Int64) :
    Like (.insufficientStock p available requested) (.insufficientStock p' available requested)

/-- Replies alike. -/
inductive Reply.Like : Reply → Reply → Prop
  | wallet {w w' : Wallet} (same : w.Like pairs w') : Like (.wallet w) (.wallet w')
  | money (m : Money) : Like (.money m) (.money m)
  | entry {e e' : Entry} (same : e.Like goods pairs e') : Like (.entry e) (.entry e')
  | entries {es es' : List Entry} (same : List.Forall₂ (Entry.Like goods pairs) es es') :
    Like (.entries es) (.entries es')

/-- What comes of two requests is alike: both are answered with the same status, or both are
refused. -/
inductive AnswersLike : Except Failure (Outcome Reply) → Except Failure (Outcome Reply) → Prop
  | answered (status : Status) {r r' : Reply} (same : r.Like goods pairs r') :
    AnswersLike (.ok ⟨status, r⟩) (.ok ⟨status, r'⟩)
  | refused {e e' : LedgerError} (same : e.Like goods pairs e') :
    AnswersLike (.error (.refused e)) (.error (.refused e'))

/-- Requests of a user that are the same, but for the product that is purchased. -/
inductive Request.Like : Request → Request → Prop
  | initWallet (user : String) : Like (.initWallet user) (.initWallet user)
  | getWallet (user : String) : Like (.getWallet user) (.getWallet user)
  | balance (user : String) : Like (.balance user) (.balance user)
  | deposit (user : String) (amount : Money) : Like (.deposit user amount) (.deposit user amount)
  | withdraw (user : String) (amount : Money) :
    Like (.withdraw user amount) (.withdraw user amount)
  | purchase (user : String) {p p' : String} (same : goods p p') (quantity : Int64) :
    Like (.purchase user p quantity) (.purchase user p' quantity)
  | history (user : String) : Like (.history user) (.history user)

end Like

/-! ## More pairs -/

section Like

variable {goods : String → String → Prop} {pairs later : Pairs}

theorem Wallet.Like.mono {w w' : Wallet} (h : w.Like pairs w') (sub : pairs ⊆ later) :
    w.Like later w' :=
  ⟨h.id.mono sub, h.userId, h.balance, h.createdAt.mono sub, h.updatedAt.mono sub⟩

theorem Entry.Like.mono {e e' : Entry} (h : e.Like goods pairs e') (sub : pairs ⊆ later) :
    e.Like goods later e' :=
  ⟨h.id.mono sub, h.walletId.mono sub, h.kind, h.createdAt.mono sub⟩

theorem EntryKind.Like.effect {k k' : EntryKind} (h : k.Like goods k') : k.effect = k'.effect := by
  cases h <;> rfl

theorem LedgerError.Like.mono {e e' : LedgerError} (h : e.Like goods pairs e')
    (sub : pairs ⊆ later) : e.Like goods later e' := by
  cases h with
  | equal noWallet noProduct => exact .equal noWallet noProduct
  | walletAlreadyExists same => exact .walletAlreadyExists (same.mono sub)
  | productNotFound same => exact .productNotFound same
  | insufficientStock same => exact .insufficientStock same ..

theorem Reply.Like.mono {r r' : Reply} (h : r.Like goods pairs r') (sub : pairs ⊆ later) :
    r.Like goods later r' := by
  cases h with
  | wallet same => exact .wallet (same.mono sub)
  | money m => exact .money m
  | entry same => exact .entry (same.mono sub)
  | entries same => exact .entries (same.imp fun _ _ h => h.mono sub)

theorem AnswersLike.mono {r r' : Except Failure (Outcome Reply)}
    (h : AnswersLike goods pairs r r') (sub : pairs ⊆ later) : AnswersLike goods later r r' := by
  cases h with
  | answered status same => exact .answered status (same.mono sub)
  | refused same => exact .refused (same.mono sub)

end Like

end WalletLedger
