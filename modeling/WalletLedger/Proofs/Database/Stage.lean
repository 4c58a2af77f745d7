import WalletLedger.Proofs.Books.Bounds
import WalletLedger.Proofs.Database.Queries
import WalletLedger.Proofs.Database.Rows

/-!
# Databases on which calls are followed

A call is followed on a `Stage`: a database that keeps books and, if the way is
clear, has no guards and a free pool. Writing its tables as the books are
written leads to the stage of the new books (`Stage.setWallets`,
`Stage.setProducts`). The rules of the steps with which a query begins ask for
nothing else on a stage (`Stage.meets_acquire` and its companions), and a
statement about a live product selects the row that keeps it
(`Stage.meets_updateLive`). For a read it is enough that the database is
`Readable`: it keeps books and gives a connection.
-/

namespace WalletLedger.Database

open Memory Query

/-- A database keeps books, and if the way is clear it has no guards and a free pool. -/
structure Stage (clear : Prop) (db : Database) (b : Books) : Prop where
  keeps : Keeps db b
  unguarded : clear → db.guards = []
  free : clear → db.pool.IsFree

/-- An outcome of the books is this reply, and the database keeps the books after it. -/
def Agrees (clear : Prop) (outcome : Except Failure (Reply × Books)) (reply : Reply)
    (db : Database) : Prop :=
  ∃ b', outcome = .ok (reply, b') ∧ Stage clear db b'

variable {clear : Prop} {db : Database} {b : Books}

theorem firstBroken?_eq_none {Row : Type} {checks : List (Check Row)} {row : Row} :
    firstBroken? checks row = none ↔ ∀ c ∈ checks, c.holds row := by
  simp [firstBroken?]

/-- Books with rows for articles are in bounds as the books are. -/
theorem inBounds_masked {rows : List Article} {users : List User}
    (same : rows.map Article.masked = b.articles.map Article.masked) (inBounds : b.InBounds) :
    ({ b with articles := rows, users } : Books).InBounds := by
  refine ⟨inBounds.balances, fun a ha => ?_, fun a ha => ?_, inBounds.amounts,
    inBounds.quantities⟩
  · obtain ⟨c, hc, alike⟩ := exists_of_map_eq same ha
    rw [← masked_price a, ← alike, masked_price]
    exact inBounds.prices c hc
  · obtain ⟨c, hc, alike⟩ := exists_of_map_eq same ha
    rw [← masked_stock a, ← alike, masked_stock]
    exact inBounds.stocks c hc

theorem isLive_self {id : String} {p : Product} (live : b.product? id = some p) :
    isLive id ⟨p, false⟩ := by
  simp [isLive, (Books.product?_eq_some live).2]

theorem isLive_id {id : String} (r : Article) (chosen : isLive id r) : r.product.id = id := by
  simp only [isLive, Bool.and_eq_true, beq_iff_eq] at chosen
  exact chosen.1

/-- A database keeps books, and if the way is clear it gives a connection to whoever asks. -/
structure Readable (clear : Prop) (db : Database) (b : Books) : Prop where
  keeps : Keeps db b
  acquired : clear → db.pool.acquire = .ok ()

namespace Readable

variable {α : Type} {Q : α → Database → Prop} {P : DatabaseError → Prop}

theorem meets_acquire (h : Readable clear db b) {next : Unit → Query α}
    (rest : Meets clear (next ()) db Q P) : Meets clear (acquire >>= next) db Q P :=
  meets_bind (Query.meets_acquire h.acquired rest)

theorem meets_wallets (h : Readable clear db b) {next : List Wallet → Query α}
    (rest : Meets clear (next b.wallets) db Q P) : Meets clear (wallets >>= next) db Q P :=
  meets_bind (Query.meets_wallets h.keeps.wallets rest)

theorem meets_entries (h : Readable clear db b) {next : List EntryRow → Query α}
    (rest : Meets clear (next (b.entries.map EntryRow.ofEntry)) db Q P) :
    Meets clear (entries >>= next) db Q P :=
  meets_bind (Query.meets_entries h.keeps.entries rest)

end Readable

namespace Stage

/-- A database is given the identifier that the books are given, and is shown the same time. -/
theorem next_eq (h : Stage clear db b) : db.supply.next = b.next :=
  show db.supply.inOrder.next = _ from h.keeps.supply ▸ rfl

/-! ## Writing the tables -/

theorem spend (h : Stage clear db b) (ids looks : Nat) :
    Stage clear { db with supply := db.supply.spend ids looks } (b.spend ids looks) := by
  refine ⟨⟨?_, h.keeps.users, h.keeps.wallets, h.keeps.products, h.keeps.entries⟩,
    h.unguarded, h.free⟩
  exact congrArg (fun s : Supply => s.spend ids looks) h.keeps.supply

theorem setWallets (h : Stage clear db b) (wallets : List Wallet) :
    Stage clear { db with tables := { db.tables with wallets := some wallets } }
      { b with wallets } :=
  ⟨⟨h.keeps.supply, h.keeps.users, rfl, h.keeps.products, h.keeps.entries⟩, h.unguarded, h.free⟩

theorem setProducts (h : Stage clear db b) {rows articles : List Article}
    (same : rows.map Article.masked = articles.map Article.masked) :
    Stage clear { db with tables := { db.tables with products := some rows } }
      { b with articles } :=
  ⟨⟨h.keeps.supply, h.keeps.users, h.keeps.wallets, ⟨rows, rfl, same⟩, h.keeps.entries⟩,
    h.unguarded, h.free⟩

theorem readable (h : Stage clear db b) : Readable clear db b :=
  ⟨h.keeps, fun c => (h.free c).1⟩

/-! ## Rules on a stage -/

section Rules

variable {α : Type} {Q : α → Database → Prop} {P : DatabaseError → Prop}

theorem meets_acquire (h : Stage clear db b) {next : Unit → Query α}
    (rest : Meets clear (next ()) db Q P) : Meets clear (acquire >>= next) db Q P :=
  h.readable.meets_acquire rest

theorem meets_lock (h : Stage clear db b) {next : Unit → Query α}
    (rest : Meets clear (next ()) db Q P) : Meets clear (lockForWriting >>= next) db Q P :=
  meets_bind (Query.meets_lock (fun c => (h.free c).2) rest)

theorem meets_wallets (h : Stage clear db b) {next : List Wallet → Query α}
    (rest : Meets clear (next b.wallets) db Q P) : Meets clear (wallets >>= next) db Q P :=
  h.readable.meets_wallets rest

theorem meets_entries (h : Stage clear db b) {next : List EntryRow → Query α}
    (rest : Meets clear (next (b.entries.map EntryRow.ofEntry)) db Q P) :
    Meets clear (entries >>= next) db Q P :=
  h.readable.meets_entries rest

theorem meets_newId (h : Stage clear db b) {next : String → Query α}
    (rest : Meets clear (next b.next.id) { db with supply := db.supply.spend 1 0 } Q P) :
    Meets clear (newId >>= next) db Q P := by
  refine meets_bind (Query.meets_newId ?_)
  rw [← h.next_eq] at rest
  exact rest

theorem meets_readClock (h : Stage clear db b) {next : Timestamp → Query α}
    (rest : Meets clear (next b.next.time) { db with supply := db.supply.spend 0 1 } Q P) :
    Meets clear (readClock >>= next) db Q P := by
  refine meets_bind (Query.meets_readClock ?_)
  rw [← h.next_eq] at rest
  exact rest

/-- An identifier is taken, and then the clock is looked at. -/
theorem meets_stamp (h : Stage clear db b) {next : String → Timestamp → Query α}
    (rest : Meets clear (next b.next.id b.next.time)
      { db with supply := db.supply.spend 1 1 } Q P) :
    Meets clear (newId >>= fun id => readClock >>= next id) db Q P :=
  h.meets_newId ((h.spend 1 0).meets_readClock rest)

/-- The row of a live product is the one that is changed. -/
theorem meets_updateLive (h : Stage clear db b) (wf : b.WellFormed) {rows : List Article}
    (same : rows.map Article.masked = b.articles.map Article.masked) {id : String} {watch : Watch}
    {change : Article → Article} {Q : Option Article × List Article → Database → Prop}
    (sound : clear → ∀ p, b.product? id = some p →
      0 < (change ⟨p, false⟩).product.price.value ∧ 0 ≤ (change ⟨p, false⟩).product.stock.toInt)
    (missing : b.product? id = none → Q (none, rows) db)
    (changed : ∀ p, b.product? id = some p → Q (some (change ⟨p, false⟩),
      rows.map fun r => if isLive id r then change r else r) db)
    (passed : ¬ clear → Q (none, rows) db) :
    Meets clear (updateRow (some watch) productChecks (isLive id) change rows) db Q P := by
  have live := find_live wf same id
  refine meets_updateRow h.unguarded ?_ ?_ ?_ passed
  · intro c a found
    obtain ⟨p, hp, rfl⟩ := Option.map_eq_some_iff.mp (live.symm.trans found)
    rw [firstBroken?_eq_none]
    simpa [productChecks, Money.isPositive] using sound c p hp
  · intro none_found
    exact missing (by simpa [none_found] using live.symm)
  · intro a found
    obtain ⟨p, hp, rfl⟩ := Option.map_eq_some_iff.mp (live.symm.trans found)
    exact changed p hp

end Rules

end Stage

end WalletLedger.Database
