import WalletLedger.Database.Store
import WalletLedger.Proofs.Attempts
import WalletLedger.Proofs.Database.Ledger
import WalletLedger.World

/-!
# Calls of a database that keeps books

A call of a database that keeps books answers what `Books.respond` answers, and
then the database keeps the books after it (`perform_follows`). When nothing is
in the way of the call, it also fails as `Books.respond` does: the pool is
free, there are no guards, the course is smooth, and no check of the schema is
broken, because the call was checked and the books are in bounds.
-/

namespace WalletLedger.Database

open Memory Query

variable {clear : Prop} {db : Database} {b : Books} {α β : Type}

/-! ## Reads -/

section Reads

variable {P : DatabaseError → Prop} {user id : String}

theorem joined_eq {rows : List UserRow} (same : SameUsers rows b.users) (w : Wallet) :
    joined rows w = b.joined w :=
  congrArg (fun user => { w with user }) (same w.userId)

/-- A query answers what the books say and changes nothing. -/
def Tells (clear : Prop) (q : Query α) (db : Database) (a : α) : Prop :=
  ∀ P, q.Meets clear db (fun a' db' => a' = a ∧ db' = db) P

theorem Tells.answer_eq {q : Query α} {a : α} (tells : Tells True q db a) :
    answer q db = (.ok a, db) := by
  unfold answer
  rw [(tells fun _ => False).run_eq]

/-- A read that gets its connection answers what the books say. -/
theorem Tells.read_eq {q : Query α} {a : α} (tells : Tells True q db a)
    (acquired : db.pool.acquire = .ok ()) (limit : Option Duration) :
    read limit q db = (.ok a, db) := by
  rcases read_eq_or_late limit q db with same | ⟨hindered, -⟩
  · exact same.trans tells.answer_eq
  · exact absurd acquired hindered

theorem tells_walletByUser (h : Readable clear db b) :
    Tells clear (walletByUser user) db ((b.wallet? user).map b.joined) := by
  intro P
  obtain ⟨rows, there, same⟩ := h.keeps.users
  refine h.meets_acquire (h.meets_wallets ?_)
  refine meets_bind (meets_users there (meets_pure ⟨?_, rfl⟩))
  exact congrArg (Option.map · (b.wallet? user)) (funext (joined_eq same))

theorem tells_listWallets (h : Readable clear db b) :
    Tells clear listWallets db b.listWallets := by
  intro P
  obtain ⟨rows, there, same⟩ := h.keeps.users
  refine h.meets_acquire (h.meets_wallets ?_)
  refine meets_bind (meets_users there (meets_pure ⟨?_, rfl⟩))
  rw [Books.listWallets, h.keeps.walletOrder_eq, funext (joined_eq same)]

theorem tells_listProducts (h : Readable clear db b) :
    Tells clear listProducts db b.listProducts := by
  intro P
  obtain ⟨rows, there, same⟩ := h.keeps.products
  refine h.meets_acquire (meets_bind (meets_products there ?_))
  refine meets_pure ⟨?_, rfl⟩
  rw [Books.listProducts, h.keeps.articleOrder_eq, live_eq same]

theorem tells_productById (h : Readable clear db b) (wf : b.WellFormed) :
    Tells clear (productById id) db (b.product? id) := by
  intro P
  obtain ⟨rows, there, same⟩ := h.keeps.products
  refine h.meets_acquire (meets_bind (meets_products there ?_))
  refine meets_pure ⟨?_, rfl⟩
  rw [find_live wf same, Option.map_map]
  exact Option.map_id'

theorem entries_inOrder (wf : b.WellFormed) :
    b.entries.Pairwise fun e f => e.createdAt ≤ f.createdAt :=
  (List.pairwise_map.mp wf.entries.pairwise_time).imp And.left

/-- Rows of the ledger that are chosen and sorted are read back as the entries of the books. -/
theorem entries_newestFirst (wf : b.WellFormed) (p : EntryRow → Bool) :
    EntryRow.entries (newestFirst ((b.entries.map EntryRow.ofEntry).filter p)) =
      .ok (b.listEntries.filter fun e => p (.ofEntry e)) := by
  rw [List.filter_map, newestFirst_ofEntry ((entries_inOrder wf).filter _), entries_ofEntry,
    Books.listEntries, List.filter_reverse]
  rfl

theorem tells_listEntries (h : Readable clear db b) (wf : b.WellFormed) :
    Tells clear listEntries db b.listEntries := by
  intro P
  refine h.meets_acquire (h.meets_entries ?_)
  refine meets_ofExcept ?_ ⟨rfl, rfl⟩
  rw [newestFirst_ofEntry (entries_inOrder wf), entries_ofEntry]
  rfl

theorem history_eq (wf : b.WellFormed) : b.history user = b.listEntries.filter fun e =>
    b.wallets.any fun w => w.id == e.walletId && w.userId == user := by
  unfold Books.history
  rcases holder : b.wallet? user with _ | w
  · refine (List.filter_eq_nil_iff.mpr fun e _ => ?_).symm
    simpa using fun v hv _ => Books.wallet?_eq_none.mp holder v hv
  · refine List.filter_congr fun e _ => ?_
    rw [Bool.eq_iff_iff]
    simp only [beq_iff_eq, List.any_eq_true, Bool.and_eq_true]
    obtain ⟨mem, own⟩ := Books.wallet?_eq_some holder
    refine ⟨fun mine => ⟨w, mem, mine.symm, own⟩, fun ⟨v, hv, mine, owner⟩ => ?_⟩
    rw [← mine, (wf.id_eq_iff holder hv).mpr owner]

theorem tells_history (h : Readable clear db b) (wf : b.WellFormed) :
    Tells clear (history user) db (b.history user) := by
  intro P
  refine h.meets_acquire (h.meets_entries ?_)
  refine h.meets_wallets (meets_ofExcept ?_ ⟨rfl, rfl⟩)
  rw [entries_newestFirst wf, history_eq wf]
  rfl

end Reads

/-! ## Writes -/

section Writes

variable {user id : String}

theorem meets_insertProduct (h : Stage clear db b)
    {fields : NewProduct} (sound : clear → 0 < fields.price.value ∧ 0 ≤ fields.stock.toInt) :
    (insertProduct fields).Meets clear db
      (fun p db => Agrees clear (b.respond manner (.insertProduct fields)) (.product p) db)
      (fun e => b.respond manner (.insertProduct fields) = .error (.refused (.ofDatabase e))) := by
  obtain ⟨rows, there, same⟩ := h.keeps.products
  refine h.meets_acquire (meets_bind (meets_products there ?_))
  refine h.meets_lock (h.meets_stamp ?_)
  refine meets_bind (meets_passGuard h.unguarded ?_ ?_)
  · refine meets_bind (meets_passChecks (fun c => ?_) (meets_bind (meets_modify (meets_pure ?_))))
    · rw [firstBroken?_eq_none]
      simpa [productChecks, Money.isPositive] using sound c
    · refine ⟨_, rfl, (h.spend 1 1).setProducts ?_⟩
      rw [List.map_append, same, ← List.map_append]
      rfl
  · exact fun hindered => meets_throw fun c => absurd c hindered

theorem meets_updateProduct (h : Stage clear db b) (wf : b.WellFormed) {fields : NewProduct}
    (sound : clear → 0 < fields.price.value ∧ 0 ≤ fields.stock.toInt) :
    (updateProduct id fields).Meets clear db
      (fun p db => Agrees clear (b.respond manner (.updateProduct id fields)) (.product p) db)
      (fun e => b.respond manner (.updateProduct id fields) =
        .error (.refused (.ofDatabase e))) := by
  obtain ⟨rows, there, same⟩ := h.keeps.products
  rw [Books.respond]
  refine h.meets_acquire (meets_bind (meets_products there ?_))
  refine h.meets_lock (h.meets_readClock ?_)
  refine meets_bind ((h.spend 0 1).meets_updateLive (wf.spend 0 1) same (fun c _ _ => sound c)
    ?_ ?_ ?_)
  · intro (gone : b.product? id = none)
    refine meets_bind (meets_modify (meets_throw fun _ => ?_))
    rw [gone]
    rfl
  · intro p (live : b.product? id = some p)
    refine meets_bind (meets_modify (meets_pure ?_))
    rw [live]
    refine ⟨_, rfl, (h.spend 0 1).setProducts ?_⟩
    exact masked_setArticle (wf.spend 0 1) same live (isLive_self live) isLive_id rfl
  · exact fun hindered => meets_bind (meets_modify (meets_throw fun c => absurd c hindered))

theorem meets_deleteProduct (h : Stage clear db b) (wf : b.WellFormed)
    (inBounds : clear → b.InBounds) :
    (deleteProduct id).Meets clear db
      (fun _ db => Agrees clear (b.respond manner (.deleteProduct id)) .nothing db)
      (fun e => b.respond manner (.deleteProduct id) = .error (.refused (.ofDatabase e))) := by
  obtain ⟨rows, there, same⟩ := h.keeps.products
  rw [Books.respond]
  refine h.meets_acquire (meets_bind (meets_products there ?_))
  refine h.meets_lock (h.meets_readClock ?_)
  have sound (c : clear) (p : Product) (live : b.product? id = some p) := (inBounds c).live live
  refine meets_bind ((h.spend 0 1).meets_updateLive (wf.spend 0 1) same sound ?_ ?_ ?_)
  · intro (gone : b.product? id = none)
    refine meets_bind (meets_modify (meets_throw fun _ => ?_))
    rw [gone]
    rfl
  · intro p (live : b.product? id = some p)
    refine meets_bind (meets_modify (meets_pure ?_))
    rw [live]
    refine ⟨_, rfl, (h.spend 0 1).setProducts ?_⟩
    exact masked_setArticle (wf.spend 0 1) same live (isLive_self live) isLive_id rfl
  · exact fun hindered => meets_bind (meets_modify (meets_throw fun c => absurd c hindered))

theorem ofRefusal_userId :
    DatabaseError.ofRefusal (some "2067") ("UNIQUE constraint failed: " ++ "wallets.user_id") =
      .uniqueViolation "wallets.user_id" "unknown" := by
  decide +kernel

theorem meets_createWallet (h : Stage clear db b) :
    (createWallet user).Meets clear db
      (fun w db => Agrees clear (b.respond manner (.createWallet user)) (.wallet w) db)
      (fun e => e = .uniqueViolation "wallets.user_id" user ∧
        b.respond manner (.createWallet user) = .error (.refused (.duplicateWallet user))) := by
  rw [Books.respond]
  refine meets_naming (h.meets_acquire (h.meets_wallets ?_))
  refine h.meets_lock (h.meets_stamp ?_)
  refine meets_bind (meets_passGuard h.unguarded ?_ ?_)
  · refine meets_bind (meets_passChecks (fun _ => ?_) (meets_bind (meets_passUnique ?_ ?_)))
    · rw [firstBroken?_eq_none]
      simp [walletChecks, Money.isNegative, Money.value, Money.zero]
    · refine fun taken _ => ⟨_, ofRefusal_userId, rfl, ?_⟩
      rw [if_pos]
      simpa [Books.wallet?] using taken
    · intro vacant
      have none_found : ¬ (b.wallet? user).isSome := by simpa [Books.wallet?] using vacant
      rw [if_neg none_found]
      exact meets_bind (meets_modify (meets_pure ⟨_, rfl, (h.spend 1 1).setWallets _⟩))
  · exact fun hindered => meets_throw fun c => absurd c hindered

end Writes

/-! ## Whole calls -/

/-- A call comes to what the books answer, and then the database keeps the
books after it; or it fails as the books do, if it is not refused or nothing
is in the way. -/
def Follows (clear : Prop) (b : Books) (call : StoreCall) : Except Failure Reply × Database → Prop
  | (.ok reply, db) => Agrees clear (b.respond manner call) reply db
  | (.error e, _) => (e.isRefusal → clear) → b.respond manner call = .error e

section Follows

variable {call : StoreCall} {f : α → Reply} {P : DatabaseError → Prop}

theorem follows_answer {q : Query α}
    (h : q.Meets clear db (fun a db => Agrees clear (b.respond manner call) (f a) db)
      (fun e => b.respond manner call = .error (.refused (.ofDatabase e)))) :
    Follows clear b call ((f <$> answer q) db) := by
  rw [Attempt.map_apply]
  unfold Query.Meets at h
  unfold answer
  rcases hq : q db with e | ⟨a, db'⟩ <;> rw [hq] at h
  · exact fun refused => h (refused rfl)
  · exact h

theorem follows_read {q : Query α} {a : α} (h : Stage clear db b)
    (tells : Tells clear q db a) (reads : b.respond manner call = .ok (f a, b))
    (limit : Option Duration) :
    Follows clear b call ((f <$> read limit q) db) := by
  have answered : Follows clear b call ((f <$> answer q) db) := by
    refine follows_answer ((tells _).mono ?_)
    rintro a' db' ⟨rfl, rfl⟩
    exact ⟨b, reads, h⟩
  rw [Attempt.map_apply] at answered ⊢
  rcases read_eq_or_late limit q db with same | ⟨hindered, d, late⟩
  · rw [same]
    exact answered
  · rw [late]
    exact fun refused => absurd (h.free (refused rfl)).1 hindered

theorem follows_attempt {x : Work α} {course : Course} (free : clear → db.pool.IsFree)
    (smooth : clear → course = .smooth)
    (h : x.Meets clear db (fun a db => Agrees clear (b.respond manner call) (f a) db)
      (fun e => b.respond manner call = .error e)) :
    Follows clear b call ((f <$> x.attempt course) db) := by
  rw [Attempt.map_apply]
  have run := Work.meets_attempt free smooth h
  rcases hx : x.attempt course db with ⟨e | a, db'⟩ <;> rw [hx] at run <;> exact run

theorem follows_makeWallet {user : String} (h : Stage clear db b) :
    Follows clear b (.createWallet user) ((Reply.wallet <$> makeWallet user) db) := by
  rw [Attempt.map_apply]
  have made : (createWallet user).Meets clear db _ _ := meets_createWallet h
  unfold Query.Meets at made
  unfold makeWallet
  rcases hq : createWallet user db with e | ⟨w, db'⟩ <;> rw [hq] at made
  · by_cases c : clear
    · obtain ⟨rfl, taken⟩ := made c
      exact fun _ => taken
    · cases e <;> exact fun refused => absurd (refused rfl) c
  · exact made

end Follows

theorem perform_follows (h : Stage clear db b) (wf : b.WellFormed) (course : Course)
    (limit : Option Duration) {call : StoreCall} (smooth : clear → course = .smooth)
    (sound : clear → b.InBounds ∧ call.Checked) :
    Follows clear b call ((storeOn course).perform limit call db) := by
  cases call with
  | walletByUser user => exact follows_read h (tells_walletByUser h.readable) rfl limit
  | createWallet user => exact follows_makeWallet h
  | listWallets => exact follows_read h (tells_listWallets h.readable) rfl limit
  | listProducts => exact follows_read h (tells_listProducts h.readable) rfl limit
  | productById id => exact follows_read h (tells_productById h.readable wf) rfl limit
  | insertProduct p => exact follows_answer (meets_insertProduct h fun c => (sound c).2)
  | updateProduct id p => exact follows_answer (meets_updateProduct h wf fun c => (sound c).2)
  | deleteProduct id => exact follows_answer (meets_deleteProduct h wf fun c => (sound c).1)
  | deposit user amount => exact follows_attempt h.free smooth (Work.meets_deposit h wf sound)
  | withdraw user amount =>
    exact follows_attempt h.free smooth (Work.meets_withdraw h wf fun c => (sound c).2)
  | purchase user id quantity =>
    exact follows_attempt h.free smooth (Work.meets_purchase h wf sound)
  | history user => exact follows_read h (tells_history h.readable wf) rfl limit
  | listEntries => exact follows_read h (tells_listEntries h.readable wf) rfl limit

/-- A database that gives a connection answers every read as the books do. -/
theorem perform_reads (h : Readable True db b) (wf : b.WellFormed) (course : Course)
    (limit : Option Duration) {call : StoreCall} (reads : call.isRead) :
    (storeOn course).perform limit call db = (.ok (b.answer call), db) := by
  have told {α : Type} {q : Query α} {a : α} (f : α → Reply) (tells : Tells True q db a) :
      (f <$> read limit q : Attempt (StateM Database) Reply) db = (.ok (f a), db) := by
    rw [Attempt.map_apply, tells.read_eq (h.acquired trivial)]
    rfl
  cases call with
  | walletByUser user => exact told _ (tells_walletByUser h)
  | listWallets => exact told _ (tells_listWallets h)
  | listProducts => exact told _ (tells_listProducts h)
  | productById id => exact told _ (tells_productById h wf)
  | history user => exact told _ (tells_history h wf)
  | listEntries => exact told _ (tells_listEntries h wf)
  | _ => cases reads

/-- A deadline that is not reached is in nobody's way. -/
theorem store_of_unhurried {deadline : Option Duration}
    (unhurried : Cutoff.ofDeadline deadline = none) : store deadline = storeOn .smooth := by
  rw [store, Course.ofDeadline, unhurried]
  rfl

/-! ## In a world -/

theorem map_onStore (f : α → β) (x : Attempt (StateM Database) α) :
    (f <$> World.onStore _ x : Attempt (StateM (World Database)) β) =
      World.onStore _ (f <$> x : Attempt (StateM Database) β) := by
  funext w
  rw [Attempt.map_apply]
  simp only [World.onStore, Attempt.map_apply]

theorem perform_onStore (store : Store (StateM Database)) (limit : Option Duration)
    (call : StoreCall) :
    (store.map World.onStore).perform limit call = World.onStore _ (store.perform limit call) := by
  cases call <;> exact map_onStore _ _

end WalletLedger.Database
