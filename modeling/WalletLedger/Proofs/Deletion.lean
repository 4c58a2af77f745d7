import WalletLedger.Proofs.Books.Deletion
import WalletLedger.Proofs.Stocks

/-!
# Deletion is final

A product that was deleted stays deleted, whatever calls are made afterwards and
whatever else a store goes through (`deletion_is_final`). Its row keeps the price
and the stock that it had, no view shows it, and every call that asks for it is
refused, because no product is found (`Conduct.Refuses`). The entries of its
purchases still refer to a row, as all entries of purchases do.
-/

namespace WalletLedger

open Memory

namespace Conduct

variable {W M : Type}

/-- A call is refused in a state: it is not answered however it ends, and where nothing
hinders it, it ends in this error and changes nothing. -/
def Refuses (c : Conduct W M) (unhindered : M → W → Prop) (w : W) (call : StoreCall)
    (e : LedgerError) : Prop :=
  ∀ manner r w', c.ends manner call w r w' →
    (∀ reply, r ≠ .ok reply) ∧ (unhindered manner w → r = .error (.refused e) ∧ w' = w)

/-- A product that was deleted, at this price and with this stock, in a state of a store with
these books, to which calls were answered that are past. -/
structure Deleted (c : Conduct W M) (unhindered : M → W → Prop) (past : List Answered) (w : W)
    (b : Books) (id : String) (price : Money) (stock : Int64) : Prop where
  /-- Its row is there, deleted, with the price and the stock. -/
  retired : b.Retired id price stock
  /-- It is in no listing. -/
  unlisted : ∃ ps, c.Answers w .listProducts (.products ps) ∧ ∀ p ∈ ps, p.id ≠ id
  /-- It is not found. -/
  unfound : c.Answers w (.productById id) .nothing
  /-- It cannot be updated. -/
  notUpdated : ∀ fields, c.Refuses unhindered w (.updateProduct id fields) (.productNotFound id)
  /-- It cannot be deleted again. -/
  notDeletedAgain : c.Refuses unhindered w (.deleteProduct id) (.productNotFound id)
  /-- With a wallet it cannot be bought for want of the product, and without for want of one. -/
  notSold : ∀ user quantity, c.Refuses unhindered w (.purchase user id quantity)
    (if (b.wallet? user).isSome then .productNotFound id else .walletNotFound user)
  /-- The entries are those that the answered calls returned. -/
  recorded : b.entries = committed past
  /-- Every purchase refers to a product that has a row. -/
  referred : ∀ e ∈ b.entries, ∀ bought, e.kind.productId? = some bought →
    ∃ a ∈ b.articles, a.product.id = bought

/-- Where nothing hinders calls that ask for rows that are not there, a store refuses them for
it, as its books do. -/
def RefusesMisses (c : Conduct W M) (unhindered : M → W → Prop) (holds : W → Books → Prop) :
    Prop :=
  ∀ {w w' : W} {b : Books} {manner : M} {call : StoreCall} {e : LedgerError}
    {r : Except Failure Reply}, holds w b → b.WellFormed → b.Misses call e → unhindered manner w →
    c.ends manner call w r w' → r = .error (.refused e) ∧ w' = w

namespace Follows

variable {c : Conduct W M} {unhindered : M → W → Prop} {holds : W → Books → Prop}
  {start w w₁ w₂ : W} {b : Books} {past : List Answered}

theorem refuses (follows : c.Follows holds) (refusing : c.RefusesMisses unhindered holds)
    (held : holds w b) (wf : b.WellFormed) {call : StoreCall} {e : LedgerError}
    (misses : b.Misses call e) : c.Refuses unhindered w call e := by
  intro manner r w' ended
  refine ⟨fun reply answered => ?_, fun free => refusing held wf misses free ended⟩
  rw [answered] at ended
  obtain ⟨b', step, -⟩ := follows.answered held wf ended
  exact misses.unanswered step

theorem deleted (follows : c.Follows holds) (refusing : c.RefusesMisses unhindered holds)
    (held : holds w b) (wf : b.WellFormed) {id : String} {price : Money} {stock : Int64}
    (gone : b.Retired id price stock) (recorded : b.entries = committed past) :
    ∃ b', c.books? w = some b' ∧ c.Deleted unhindered past w b' id price stock := by
  obtain ⟨articles, users, same, shown⟩ := follows.shown held
  have missing : b.product? id = none := gone.product?_eq_none
  refine ⟨_, shown, gone.ofRows same, ⟨b.listProducts, ?_, gone.unlisted⟩, ?_, fun fields => ?_,
    ?_, fun user quantity => ?_, recorded, fun e mem bought kind => ?_⟩
  · exact follows.answers held wf rfl
  · have answers : c.Answers w (.productById id) (b.answer (.productById id)) :=
      follows.answers held wf rfl
    rwa [Books.answer, missing] at answers
  · exact follows.refuses refusing held wf (.update missing)
  · exact follows.refuses refusing held wf (.delete missing)
  · show c.Refuses unhindered w _ (if (b.wallet? user).isSome then _ else _)
    rcases holder : b.wallet? user with _ | v
    · exact follows.refuses refusing held wf (.wallet holder)
    · exact follows.refuses refusing held wf (.purchase holder missing)
  · have row : bought ∈ b.articles.map (·.product.id) := wf.goods e mem bought kind
    rw [← Database.map_masked (f := (·.product.id)) Database.masked_id same] at row
    exact List.mem_map.mp row

theorem deletion_final (follows : c.Follows holds) (refusing : c.RefusesMisses unhindered holds)
    (held : holds start b) (wf : b.WellFormed) (empty : b.entries = []) {manner : M} {id : String}
    {before later : List Answered} {reply : Reply} (earlier : Chronicle c start before w)
    (ended : c.ends manner (.deleteProduct id) w (.ok reply) w₁) (run : Chronicle c w₁ later w₂) :
    ∃ b p b₂, c.books? w = some b ∧ b.product? id = some p ∧ c.books? w₂ = some b₂ ∧
      c.Deleted unhindered (before ++ ⟨.deleteProduct id, reply⟩ :: later) w₂ b₂ id p.price
        p.stock := by
  obtain ⟨b, held, wf, recorded⟩ := earlier.recorded follows held wf empty
  obtain ⟨articles, users, same, shown⟩ := follows.shown held
  obtain ⟨b₁, step, held₁⟩ := follows.answered held wf ended
  obtain ⟨p, live, retired⟩ := step.retires wf
  -- the invariant of what follows: the row stays retired, and the ledger goes on from here
  obtain ⟨b₂, held₂, wf₂, retired₂, recorded₂⟩ := run.keeps
    (P := fun past b => b.Retired id p.price p.stock ∧
      b.entries = committed (before ++ ⟨.deleteProduct id, reply⟩ :: past))
    follows held₁ (step.wellFormed wf)
    ⟨retired, by rw [step.entries_eq, recorded, committed_concat]⟩
    (fun ⟨retired, recorded⟩ wf step => ⟨step.retired wf retired, by
      rw [step.entries_eq, recorded, ← committed_concat, List.append_assoc, List.cons_append]⟩)
    (fun _ _ ⟨retired, recorded⟩ => ⟨retired.ofArticles rfl, recorded⟩)
  obtain ⟨shown₂, books₂, deleted⟩ := follows.deleted refusing held₂ wf₂ retired₂ recorded₂
  exact ⟨_, p, shown₂, shown, (Database.product?_masked same id).trans live, books₂, deleted⟩

end Follows

end Conduct

/-! ## In memory -/

namespace Memory

/-- A call of a memory store that is made without a deadline. -/
def Unhindered (manner : Pace × Option Duration) (_ : World Memory) : Prop :=
  manner.1.deadline = none

theorem refusesMisses :
    conduct.RefusesMisses Unhindered fun w b => w.store.books = b := by
  rintro w w' b ⟨pace, limit⟩ call e r rfl - misses unlimited ended
  change ((pacedStore pace).perform limit call).Ends w r w' at ended
  rw [perform_write pace limit misses.writes] at ended
  have endless : (pace.of call).deadline = none := by
    cases misses <;> first | rfl | exact unlimited
  have attempt : (Work.unit call).attempt w.store = (.error (.refused e), w.store.fault) :=
    misses.unit_eq w.store.fault
  cases ended with
  | waited limited => simp [endless] at limited
  | overran limited => simp [endless] at limited
  | served rest =>
    simp only [attempt] at rest
    cases rest
    exact ⟨rfl, rfl⟩

end Memory

/-! ## In a database -/

namespace Database

open Query

/-- A call of a database that meets no deadline, when nobody holds what it needs. -/
def Unhindered (manner : Course × Option Duration) (db : Database) : Prop :=
  manner.1.cutoff = none ∧ db.pool.IsFree

section Failures

variable {α β : Type} {clear : Prop} {db : Database} {b : Books} {P : DatabaseError → Prop}
  {id : String}

/-- A statement that selects no row does not meet guards and checks. -/
theorem meets_unselected {Row : Type} {watch : Option Watch} {checks : List (Check Row)}
    {selects : Row → Bool} {change : Row → Row} {rows : List Row}
    {Q : Option Row × List Row → Database → Prop} (none_found : rows.find? selects = none)
    (h : Q (none, rows) db) :
    Query.Meets clear (updateRow watch checks selects change rows) db Q P := by
  unfold updateRow
  rw [none_found]
  exact h

theorem answer_fails {q : Query α} {e : DatabaseError} (f : α → β)
    (h : q.Meets True db (fun _ _ => False) (· = e)) :
    ((f <$> answer q : Attempt (StateM Database) β) db).1 =
      .error (.refused (.ofDatabase e)) := by
  rw [Attempt.map_apply]
  unfold Query.Meets at h
  unfold answer
  rcases run : q db with e' | ⟨a, db'⟩ <;> rw [run] at h
  · rw [h trivial]
    rfl
  · exact h.elim

theorem attempt_fails {x : Work α} {e : LedgerError} (f : α → β) {course : Course}
    (unhurried : course.cutoff = none) (free : db.pool.IsFree)
    (h : x.Meets True db (fun _ _ => False) (· = .refused e)) :
    ((f <$> x.attempt course : Attempt (StateM Database) β) db).1 = .error (.refused e) := by
  rw [Attempt.map_apply]
  rcases Work.attempt_cases x course db with ⟨hindered, -⟩ | settled
  · exact absurd free hindered
  rw [settled]
  have run := h course.cutoff fun _ => unhurried
  rcases hx : x ⟨db, course.cutoff⟩ with ⟨e' | a, t⟩ <;> rw [hx] at run
  · rw [run fun _ => trivial]
    rfl
  · exact run.1.elim

/-- Nothing is in the way of a statement about a product until it looks for the live row. -/
theorem meets_writing (keeps : Keeps db b) (wf : b.WellFormed) (free : db.pool.IsFree)
    (gone : b.product? id = none) {next : List Article → Timestamp → Query α}
    {Q : α → Database → Prop} (h : ∀ rows now db, rows.find? (isLive id) = none →
      (next rows now).Meets True db Q P) :
    Query.Meets True (acquire >>= fun _ => products >>= fun rows => lockForWriting >>= fun _ =>
      readClock >>= next rows) db Q P := by
  obtain ⟨rows, there, same⟩ := keeps.products
  have unselected : rows.find? (isLive id) = none := by rw [find_live wf same, gone]; rfl
  refine meets_bind (meets_acquire (fun _ => free.1) (meets_bind (meets_products there ?_)))
  refine meets_bind (meets_lock (fun _ => free.2) (meets_bind (meets_readClock ?_)))
  exact h rows _ _ unselected

theorem updateProduct_fails (keeps : Keeps db b) (wf : b.WellFormed) (free : db.pool.IsFree)
    (gone : b.product? id = none) (fields : NewProduct) :
    (updateProduct id fields).Meets True db (fun _ _ => False) (· = .notFound "Product" id) := by
  refine meets_writing keeps wf free gone fun rows now db unselected => ?_
  refine meets_bind (meets_unselected unselected (meets_bind (meets_modify ?_)))
  exact meets_throw fun _ => rfl

theorem deleteProduct_fails (keeps : Keeps db b) (wf : b.WellFormed) (free : db.pool.IsFree)
    (gone : b.product? id = none) :
    (deleteProduct id).Meets True db (fun _ _ => False) (· = .notFound "Product" id) := by
  refine meets_writing keeps wf free gone fun rows now db unselected => ?_
  refine meets_bind (meets_unselected unselected (meets_bind (meets_modify ?_)))
  exact meets_throw fun _ => rfl

theorem perform_misses (keeps : Keeps db b) (wf : b.WellFormed) (free : db.pool.IsFree)
    {course : Course} (unhurried : course.cutoff = none) (limit : Option Duration)
    {call : StoreCall} {e : LedgerError} (misses : b.Misses call e) :
    ((storeOn course).perform limit call db).1 = .error (.refused e) := by
  cases misses with
  | update gone => exact answer_fails _ (updateProduct_fails keeps wf free gone _)
  | delete gone => exact answer_fails _ (deleteProduct_fails keeps wf free gone)
  | purchase holder gone =>
    refine attempt_fails _ unhurried free ?_
    refine Work.meets_bind (Work.meets_findWallet keeps (fun vacant => ?_) fun w _ => ?_)
    · exact absurd (holder.symm.trans vacant) (by simp)
    refine Work.meets_bind (Work.meets_findProduct keeps wf (fun _ _ => rfl) fun p live => ?_)
    exact absurd (gone.symm.trans live) (by simp)
  | wallet vacant =>
    refine attempt_fails _ unhurried free ?_
    refine Work.meets_bind (Work.meets_findWallet keeps (fun _ _ => rfl) fun w holder => ?_)
    exact absurd (vacant.symm.trans holder) (by simp)

end Failures

theorem refusesMisses : conduct.RefusesMisses Unhindered Keeps := by
  rintro db db' b ⟨course, limit⟩ call e r keeps wf misses ⟨unhurried, free⟩ ended
  have refused := perform_misses keeps wf free unhurried limit misses
  change (storeOn course).perform limit call db = (r, db') at ended
  rw [ended] at refused
  obtain rfl : r = .error (.refused e) := refused
  exact ⟨rfl, perform_atomic course limit call db _ db' ended⟩

end Database

/-- From a memory store without wallets, products and entries, and from a database without them:
once a product was deleted in a run of calls with any arguments, it is deleted in every later
state, with the price and the stock that it had then. -/
theorem deletion_is_final :
    (∀ (users : List User) (supply : Supply) (fault : Option FaultPoint) (shelf : Shelf)
      (manner : Pace × Option Duration) (id : String) (reply : Reply)
      (before later : List Answered) (w w₁ w₂ : World Memory),
      Chronicle Memory.conduct ⟨⟨.opening users supply, fault⟩, shelf⟩ before w →
      Memory.conduct.ends manner (.deleteProduct id) w (.ok reply) w₁ →
      Chronicle Memory.conduct w₁ later w₂ →
      ∃ b p b₂, Memory.conduct.books? w = some b ∧ b.product? id = some p ∧
        Memory.conduct.books? w₂ = some b₂ ∧
        Memory.conduct.Deleted Memory.Unhindered
          (before ++ ⟨.deleteProduct id, reply⟩ :: later) w₂ b₂ id p.price p.stock) ∧
    ∀ (rows : List Database.UserRow) (supply : Supply) (guards : List Database.Guard)
      (enforced : Bool) (pool : Database.Pool) (manner : Database.Course × Option Duration)
      (id : String) (reply : Reply) (before later : List Answered) (db db₁ db₂ : Database),
      Chronicle Database.conduct (.opening rows supply guards enforced pool) before db →
      Database.conduct.ends manner (.deleteProduct id) db (.ok reply) db₁ →
      Chronicle Database.conduct db₁ later db₂ →
      ∃ b p b₂, Database.conduct.books? db = some b ∧ b.product? id = some p ∧
        Database.conduct.books? db₂ = some b₂ ∧
        Database.conduct.Deleted Database.Unhindered
          (before ++ ⟨.deleteProduct id, reply⟩ :: later) db₂ b₂ id p.price p.stock := by
  refine ⟨fun users supply fault shelf manner id reply before later w w₁ w₂ earlier ended run => ?_,
    fun rows supply guards enforced pool manner id reply before later db db₁ db₂ earlier ended
      run => ?_⟩
  · exact Memory.follows.deletion_final (b := .opening users supply) Memory.refusesMisses rfl
      (Books.opening_wellFormed users supply) rfl earlier ended run
  · exact Database.follows.deletion_final Database.refusesMisses
      (Database.opening_keeps rows supply guards enforced pool)
      (Books.opening_wellFormed _ supply.inOrder) rfl earlier ended run

/-- Two of three units of a new product are bought. -/
def teaSold : List StoreCall :=
  [.createWallet "u", .deposit "u" ⟨900⟩, .insertProduct tea, .purchase "u" (Uuid.numbered 3) 2]

/-- A product of the same name is made, and the first one is asked for again. -/
def teaAgain : List StoreCall :=
  [.insertProduct tea, .updateProduct (Uuid.numbered 3) tea, .purchase "u" (Uuid.numbered 3) 1,
    .deleteProduct (Uuid.numbered 3)]

/-- A memory store in which a product was sold. -/
def soldInMemory : World Memory :=
  (Memory.conduct.play (.unlimited, none) teaSold ⟨⟨.opening [] .start, none⟩, .empty⟩).2

/-- A database in which a product was sold. -/
def soldInDatabase : Database :=
  (Database.conduct.play (.smooth, none) teaSold
    (.opening [] .start [] true ⟨4, ⟨0⟩, true, false⟩)).2

/-- A product that was sold and deleted stays so beside a new one of its name, in either store. -/
theorem sold_tea_stays_deleted :
    (∃ past w b, (∃ e ∈ committed past, e.kind.productId? = some (Uuid.numbered 3)) ∧
      Memory.conduct.books? w = some b ∧ b.listProducts.map (·.name) = ["Tea"] ∧
      Memory.conduct.Deleted Memory.Unhindered past w b (Uuid.numbered 3) ⟨250⟩ 1) ∧
    ∃ past db b, (∃ e ∈ committed past, e.kind.productId? = some (Uuid.numbered 3)) ∧
      Database.conduct.books? db = some b ∧ b.listProducts.map (·.name) = ["Tea"] ∧
      Database.conduct.Deleted Database.Unhindered past db b (Uuid.numbered 3) ⟨250⟩ 1 := by
  refine ⟨?_, ?_⟩
  · have earlier : Chronicle Memory.conduct ⟨⟨.opening [] .start, none⟩, .empty⟩ _ _ :=
      Chronicle.start.play (.unlimited, none) teaSold
    have answered : (Memory.conduct.alone (.unlimited, none)
        (.deleteProduct (Uuid.numbered 3)) soldInMemory).1 = .ok .nothing := by decide +kernel
    have ended := Memory.conduct.ends_alone (Pace.unlimited, none)
      (.deleteProduct (Uuid.numbered 3)) soldInMemory
    rw [answered] at ended
    obtain ⟨b, p, b₂, shown, live, shown₂, gone⟩ := deletion_is_final.1 _ _ _ _ _ _ _ _ _ _ _ _
      earlier ended (Chronicle.start.play (.unlimited, none) teaAgain)
    have held : Memory.conduct.books? soldInMemory = some b := shown
    have was : ((Memory.conduct.books? soldInMemory).bind (·.product? (Uuid.numbered 3))).map
        (fun p => (p.price, p.stock)) = some (⟨250⟩, 1) := by decide +kernel
    have listed : (Memory.conduct.books? (Memory.conduct.play (.unlimited, none) teaAgain
        (Memory.conduct.alone (.unlimited, none)
          (.deleteProduct (Uuid.numbered 3)) soldInMemory).2).2).map
        (fun b => b.listProducts.map (·.name)) = some ["Tea"] := by decide +kernel
    rw [held, Option.bind_some, live] at was
    rw [shown₂] at listed
    obtain ⟨priced, stocked⟩ := Prod.mk.inj (Option.some.inj was)
    rw [priced, stocked] at gone
    exact ⟨_, _, b₂, by decide +kernel, shown₂, Option.some.inj listed, gone⟩
  · have earlier : Chronicle Database.conduct (.opening [] .start [] true ⟨4, ⟨0⟩, true, false⟩) _
        _ := Chronicle.start.play (.smooth, none) teaSold
    have answered : (Database.conduct.alone (.smooth, none)
        (.deleteProduct (Uuid.numbered 3)) soldInDatabase).1 = .ok .nothing := by decide +kernel
    have ended := Database.conduct.ends_alone (Database.Course.smooth, none)
      (.deleteProduct (Uuid.numbered 3)) soldInDatabase
    rw [answered] at ended
    obtain ⟨b, p, b₂, shown, live, shown₂, gone⟩ := deletion_is_final.2 _ _ _ _ _ _ _ _ _ _ _ _ _
      earlier ended (Chronicle.start.play (.smooth, none) teaAgain)
    have held : Database.conduct.books? soldInDatabase = some b := shown
    have was : ((Database.conduct.books? soldInDatabase).bind (·.product? (Uuid.numbered 3))).map
        (fun p => (p.price, p.stock)) = some (⟨250⟩, 1) := by decide +kernel
    have listed : (Database.conduct.books? (Database.conduct.play (.smooth, none) teaAgain
        (Database.conduct.alone (.smooth, none)
          (.deleteProduct (Uuid.numbered 3)) soldInDatabase).2).2).map
        (fun b => b.listProducts.map (·.name)) = some ["Tea"] := by decide +kernel
    rw [held, Option.bind_some, live] at was
    rw [shown₂] at listed
    obtain ⟨priced, stocked⟩ := Prod.mk.inj (Option.some.inj was)
    rw [priced, stocked] at gone
    exact ⟨_, _, b₂, by decide +kernel, shown₂, Option.some.inj listed, gone⟩

end WalletLedger
