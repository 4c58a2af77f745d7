import WalletLedger.Proofs.Books.Renaming
import WalletLedger.Proofs.Regularity
import Mathlib.Logic.Function.Basic

/-!
# One ledger, two stores

Services over a memory store and over a database that start without wallets,
products and entries answer the same requests alike, one after another, up to a
renaming of what the stores were given from outside (`stores_answer_alike`).
Each store has a supply of its own. Identifiers are renamed in turn, since
every request takes as many from either one. Times are not: a purchase writes
the wallet and the product under one time in memory, and under two in a
database. So the times of the database are taken to those of the memory store,
in order, some of them to the same (`Books.lookAlike`), and never back.
-/

namespace WalletLedger

open Memory Database

/-! ## Runs of the books -/

namespace Memory.Books

variable {ρ : Renaming} {b b' : Books} {r : Request} {rs : List Request}

/-- What books answer to requests one after another, none of which is late. -/
def answers (how : Manner) : Books → List Request → List (Except Failure (Outcome Reply))
  | _, [] => []
  | b, r :: rs =>
    (b.fulfil how none r).map Prod.fst :: (b.leaves (b.fulfil how none r)).answers how rs

/-- Which look of a memory store at its clock stands for a look of a database at its own, when
requests are asked of both, and `first` is the next look of the memory store. The looks that a
database has to spare fall together with the first one of their request. -/
def lookAlike : List Request → Books → Nat → Nat → Nat
  | [], b, first, look => first + (look - b.supply.looks)
  | r :: rs, b, first, look =>
    let after := b.leaves (b.fulfil Database.manner none r)
    if look < after.supply.looks then first + (look - b.supply.looks - r.spareLooks)
    else after.lookAlike rs (first + (after.supply.looks - b.supply.looks - r.spareLooks)) look

theorem le_lookAlike (b : Books) (rs : List Request) (first look : Nat) :
    first ≤ b.lookAlike rs first look := by
  induction rs generalizing b first with
  | nil => exact Nat.le_add_right first _
  | cons r rs ih =>
    unfold lookAlike
    dsimp only
    split
    · exact Nat.le_add_right first _
    · exact Nat.le_trans (Nat.le_add_right first _) (ih ..)

theorem lookAlike_first {look : Nat} (le : look ≤ b.supply.looks) (rs : List Request)
    (first : Nat) : b.lookAlike rs first look = first := by
  induction rs generalizing b first with
  | nil => simp [lookAlike, le]
  | cons r rs ih =>
    have onward := (b.fulfil_supply_le Database.manner none r).looks
    unfold lookAlike
    dsimp only
    split
    · omega
    · rw [ih (Nat.le_trans le onward)]
      omega

theorem lookAlike_mono (b : Books) (rs : List Request) (first : Nat) :
    Monotone (b.lookAlike rs first) := by
  induction rs generalizing b first with
  | nil => exact fun look later le => Nat.add_le_add_left (Nat.sub_le_sub_right le _) first
  | cons r rs ih =>
    intro look later le
    unfold lookAlike
    dsimp only
    split <;> split
    · omega
    · refine Nat.le_trans (Nat.add_le_add_left ?_ first) (le_lookAlike ..)
      omega
    · omega
    · exact ih _ _ le

theorem lookAlike_succ_le (b : Books) (rs : List Request) (first look : Nat) :
    b.lookAlike rs first (look + 1) ≤ b.lookAlike rs first look + 1 := by
  induction rs generalizing b first with
  | nil =>
    simp only [lookAlike]
    omega
  | cons r rs ih =>
    unfold lookAlike
    dsimp only
    split <;> split
    · omega
    · omega
    · -- the request ends between the two
      rw [lookAlike_first (by omega)]
      omega
    · exact ih ..

theorem le_lookAlike_add (b : Books) (rs : List Request) (first look : Nat) :
    look + first ≤ b.lookAlike rs first look + b.supply.looks + rs.length := by
  induction rs generalizing b first with
  | nil =>
    simp only [lookAlike]
    omega
  | cons r rs ih =>
    have spare := r.spareLooks_le
    have onward := (b.fulfil_supply_le Database.manner none r).looks
    rw [List.length_cons]
    unfold lookAlike
    dsimp only
    split
    · omega
    · have later := ih (b.leaves (b.fulfil Database.manner none r))
        (first + ((b.leaves (b.fulfil Database.manner none r)).supply.looks - b.supply.looks -
          r.spareLooks))
      omega

theorem lookAlike_paces (b : Books) (rs : List Request) (first : Nat) :
    Renaming.Paces b.supply.looks first rs.length (b.lookAlike rs first) :=
  ⟨lookAlike_mono b rs first, lookAlike_first (Nat.le_refl _) rs first,
    lookAlike_succ_le b rs first, le_lookAlike_add b rs first⟩

-- a purchase after a deposit writes the wallet, the product and the entry at the looks 4, 5 and 6
example : (List.range 8).map ((Books.opening [] .start).lookAlike
    [.createProduct ⟨"Tea", "", ⟨3⟩, 5⟩, .initWallet "u", .deposit "u" ⟨9⟩,
      .purchase "u" (Uuid.numbered 1) 2, .initWallet "v"] 0) = [0, 1, 2, 3, 4, 4, 5, 6] := by
  decide +kernel

/-- Books that hold what books of a database hold answer what those answer, renamed. -/
theorem answers_renamed (h : Renamed ρ b b') (injective : Function.Injective ρ.id)
    (uuid : ∀ id, Validation.uuid (ρ.id id) = Validation.uuid id) (solvent : b.Solvent)
    (solvent' : b'.Solvent) (orderly : b.supply.source.IsOrderly)
    (orderly' : b'.supply.source.IsOrderly)
    (given : ∀ n < rs.length, ρ.id (b.supply.source.id (b.supply.ids + n)) =
      b'.supply.source.id (b'.supply.ids + n))
    (times : ∀ look, b.supply.looks ≤ look → ρ.time (b.supply.source.instant look) =
      b'.supply.source.instant (b.lookAlike rs b'.supply.looks look)) :
    b'.answers manner (rs.map ρ.request) = (b.answers Database.manner rs).map ρ.answer := by
  induction rs generalizing b b' with
  | nil => rfl
  | cons r rs ih =>
    have within : TakesTimes ρ b b' r.spareLooks (b.fulfil Database.manner none r) := by
      intro look taken
      refine (times _ (Nat.le_add_right _ look)).trans ?_
      rw [lookAlike, if_pos taken, Nat.add_sub_cancel_left]
      rfl
    obtain ⟨told, renamed, ids, looks, one, taken, taken'⟩ :=
      (fulfil_goes h injective (given 0 (Nat.succ_pos _)) uuid solvent.wellFormed
        solvent'.wellFormed orderly orderly' r within).comes h
    rw [List.map_cons, answers, answers, List.map_cons, told]
    refine congrArg (_ :: ·) (ih renamed (fulfil_solvent solvent r) (fulfil_solvent solvent' _)
      (taken ▸ orderly) (taken' ▸ orderly') (fun n lt => ?_) fun look le => ?_)
    · rw [taken, taken']
      have inside : ids + n < (r :: rs).length := by
        rw [List.length_cons]
        omega
      simp only [Supply.spend, Nat.add_assoc]
      exact given (ids + n) inside
    · have later : b.supply.looks ≤ look := by
        rw [taken] at le
        exact Nat.le_trans (Nat.le_add_right _ looks) le
      have same := times look later
      rw [lookAlike, if_neg (Nat.not_lt.mpr le)] at same
      simpa only [taken, taken', Supply.spend, Nat.add_sub_cancel_left] using same

/-- Of two supplies of UUIDs one can be taken to the other for requests, its clock as the requests
look at it. -/
theorem exists_renaming (b b' : Books) (mine : b.supply.WillSpellUuids rs.length)
    (yours : b'.supply.WillSpellUuids rs.length) :
    ∃ ρ : Renaming, ρ.Takes b.supply b'.supply rs.length ∧
      (∀ id, Validation.uuid (ρ.id id) = Validation.uuid id) ∧
      ∀ look, ρ.time (b.supply.source.instant look) =
        b'.supply.source.instant (b.lookAlike rs b'.supply.looks look) := by
  obtain ⟨swap, swaps⟩ := exists_swap mine yours
  have instants : Function.Injective b.supply.source.instant := fun _ _ => Source.instant_inj.mp
  let time := Function.extend b.supply.source.instant
    (fun look => b'.supply.source.instant (b.lookAlike rs b'.supply.looks look)) id
  have times (look : Nat) : time (b.supply.source.instant look) =
      b'.supply.source.instant (b.lookAlike rs b'.supply.looks look) := instants.extend_apply ..
  exact ⟨⟨swap, time⟩,
    ⟨swap.bijective, swaps.given, swaps.others, _, lookAlike_paces b rs _, times⟩,
    swaps.uuid, times⟩

end Memory.Books

/-! ## Runs of the services -/

section Answers

variable {S : Type} {how : Manner} {holds : S → Books → Prop} {s : Services (StateM (World S))}
  {tempo : Movement → Bool → Option Duration → Prop} {w : World S} {b : Books}

/-- Over a store on which nothing is late, without a cache, the books answer. -/
theorem Services.answers_eq (regular : Regular how holds tempo s.store)
    (uncached : s.cache = .absent)
    (prompt : ∀ {m answered late}, tempo m answered late → late = none) (held : holds w.store b)
    (solvent : b.Solvent) (rs : List Request) : s.answers rs w = b.answers how rs := by
  induction rs generalizing w b with
  | nil => rfl
  | cons r rs ih =>
    obtain ⟨late, timed, comes⟩ :=
      serve_alone regular held solvent.wellFormed uncached solvent.inBounds r
    have inTime (m : Movement) (asked : r.movement? = some m) (flaw : m.flaw? = none) :
        late = none := prompt (timed m asked flaw)
    rw [Books.fulfil_of_prompt inTime] at comes
    obtain ⟨told, held⟩ := comes
    rw [Services.answers, Books.answers, told, ih held (Books.fulfil_solvent solvent r)]

end Answers

end WalletLedger
