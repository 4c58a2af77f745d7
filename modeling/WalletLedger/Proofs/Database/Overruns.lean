import WalletLedger.Proofs.Books.Overruns
import WalletLedger.Proofs.Database.Calls

/-!
# Where calls of a database abort

A call that overruns the books that a database keeps aborts, if nothing is in its
way (`perform_aborted_iff`). The comparisons are passed as in the books. Of what
was written by then only a new balance is in question, and it is not below zero,
so no check of the schema stops the call before its last difference is taken.
-/

namespace WalletLedger.Database

open Memory Query

variable {db : Database} {b : Books} {user id : String} {cause : Abort}

namespace Work

theorem meets_withdraw_overrun (h : Stage True db b) {amount : Money}
    (overrun : b.Overruns (.withdraw user amount)) : Meets True (withdraw user amount) db
      (fun _ _ => False) fun e => e = .aborted .subtraction := by
  obtain ⟨w, holder, enough, great⟩ := overrun
  refine meets_bind (meets_findWallet h.keeps (fun missing _ => ?_) fun v found => ?_)
  · rw [missing] at holder
    cases holder
  obtain rfl := Option.some.inj (holder.symm.trans found)
  refine meets_guard (fun short _ => absurd enough (Int.not_le.mpr short)) fun _ => ?_
  refine meets_bind (meets_compute (fun cause stopped => ?_) fun balance exact => ?_)
  · rw [(Money.sub_eq_error_iff.mp stopped).1]
  · have := balance.value_le_greatest
    rw [Money.sub_eq_ok_iff.mp exact] at this
    omega

theorem meets_purchase_overrun (h : Stage True db b) (wf : b.WellFormed) {quantity : Int64}
    (overrun : b.Overruns (.purchase user id quantity)) :
    Meets True (purchase user id quantity) db (fun _ _ => False)
      fun e => e = .aborted .subtraction := by
  obtain ⟨w, p, holder, live, inStock, fits, enough, great⟩ := overrun
  refine meets_bind (meets_findWallet h.keeps (fun missing _ => ?_) fun v found => ?_)
  · rw [missing] at holder
    cases holder
  obtain rfl := Option.some.inj (holder.symm.trans found)
  refine meets_bind (meets_findProduct h.keeps wf (fun missing _ => ?_) fun q found' => ?_)
  · rw [missing] at live
    cases live
  obtain rfl := Option.some.inj (live.symm.trans found')
  refine meets_guard (fun scarce _ => absurd inStock (Int.not_le.mpr scarce)) fun _ => ?_
  refine meets_bind (meets_orRefuse (fun unfit _ => ?_) fun total priced => ?_)
  · exact absurd fits (Money.mul?_eq_none_iff.mp unfit)
  have cost := Money.mul?_eq_some_iff.mp priced
  rw [← cost] at enough great
  refine meets_guard (fun short _ => absurd enough (Int.not_le.mpr short)) fun _ => ?_
  refine meets_bind (meets_compute (fun cause stopped => ?_) fun balance exact => ?_)
  · rw [(Money.sub_eq_error_iff.mp stopped).1]
  have left := Money.sub_eq_ok_iff.mp exact
  refine meets_bind (meets_writeBalance h wf holder (fun _ => by omega) fun db h => ?_)
  refine meets_bind (meets_compute (fun cause stopped => ?_) fun stock rest => ?_)
  · rw [(subtract_eq_error_iff.mp stopped).1]
  · have := balance.value_le_greatest
    have := toInt_le_greatest stock
    have := subtract_eq_ok_iff.mp rest
    omega

/-- Steps that can only end in a failure make their unit fail with it. -/
theorem attempt_of_meets {α β : Type} {x : Work α} {f : α → β} {e : Failure}
    (free : db.pool.IsFree) (meets : x.Meets True db (fun _ _ => False) fun e' => e' = e) :
    ((f <$> x.attempt .smooth : Attempt (StateM Database) β) db).1 = .error e := by
  have run := meets_attempt (fun _ => free) (fun _ => rfl) meets
  rw [Attempt.map_apply]
  rcases ended : x.attempt .smooth db with ⟨e' | a, db'⟩ <;> rw [ended] at run
  · exact congrArg Except.error (run fun _ => trivial)
  · exact run.elim

end Work

/-- Where nothing is in the way of a call, it aborts exactly if the books do. -/
theorem perform_aborted_iff (h : Stage True db b) (wf : b.WellFormed) (limit : Option Duration)
    {call : StoreCall} : ((storeOn .smooth).perform limit call db).1 = .error (.aborted cause) ↔
      b.respond manner call = .error (.aborted cause) := by
  have free := h.free trivial
  constructor
  · intro aborted
    -- an abort is no refusal, so it is that of the books whatever is in the way
    have follows : Follows False b call _ :=
      perform_follows ⟨h.keeps, False.elim, False.elim⟩ wf .smooth limit False.elim False.elim
    rcases run : (storeOn .smooth).perform limit call db with ⟨e | reply, db'⟩ <;>
      rw [run] at aborted follows
    · cases aborted
      exact follows (absurd · Bool.false_ne_true)
    · cases aborted
  · intro aborted
    obtain ⟨rfl, m, moves, overrun⟩ := Books.respond_aborted_iff.mp aborted
    cases call with
    | deposit user amount => cases moves; exact overrun.elim
    | withdraw user amount =>
      cases moves
      exact Work.attempt_of_meets free (Work.meets_withdraw_overrun h overrun)
    | purchase user id quantity =>
      cases moves
      exact Work.attempt_of_meets free (Work.meets_purchase_overrun h wf overrun)
    | _ => cases moves

end WalletLedger.Database
