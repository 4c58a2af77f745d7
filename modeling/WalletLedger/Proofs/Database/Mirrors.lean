import WalletLedger.Proofs.Books.Listings
import WalletLedger.Proofs.Database.Confinement
import WalletLedger.Proofs.Database.Calls
import WalletLedger.Proofs.Database.Registrations

/-!
# Databases that hold books to the row

A database `Mirrors` books when its tables are those of the books: no user was deleted, no
table has a row besides, and nothing is in the way of a call. As long as no product is taken
out of the catalog, an answered call leads to a database that mirrors the books after it
(`Mirrors.perform`), and so does the registration of a new user (`Mirrors.register`).
-/

namespace WalletLedger

/-- The books after a user was registered under the next identifier. -/
def Memory.Books.enlist (b : Memory.Books) (u : NewUser) : Memory.Books :=
  { b.spend 1 1 with users := b.users ++ [Database.NewUser.record u b.next] }

namespace Database

open Memory Query

/-- The tables of books with all their users live, on which every known migration was run. -/
def tablesOf (b : Books) : Tables :=
  ⟨some (b.users.map (⟨·, false⟩)), some b.wallets, some b.articles,
    some (b.entries.map EntryRow.ofEntry), some knownMigrations⟩

theorem tables_eq {t : Tables} {b : Books} (users : t.users = some (b.users.map (⟨·, false⟩)))
    (wallets : t.wallets = some b.wallets) (products : t.products = some b.articles)
    (entries : t.entries = some (b.entries.map EntryRow.ofEntry))
    (migrations : t.migrations = some knownMigrations) : t = tablesOf b := by
  obtain ⟨_, _, _, _, _⟩ := t
  cases users
  cases wallets
  cases products
  cases entries
  cases migrations
  rfl

/-- The tables of a database are those of books, and nothing is in the way of a call. -/
structure Mirrors (db : Database) (b : Books) : Prop where
  tables : db.tables = tablesOf b
  supply : db.supply.inOrder = b.supply
  unguarded : db.guards = []
  free : db.pool.IsFree

/-- Rows that differ from live articles in nothing but what is masked are these articles. -/
theorem eq_of_masked_live {rows articles : List Article}
    (same : rows.map Article.masked = articles.map Article.masked)
    (live : ∀ a ∈ articles, a.deleted = false) : rows = articles := by
  have unmasked {l : List Article} (live : ∀ a ∈ l, a.deleted = false) :
      l.map Article.masked = l :=
    (List.map_congr_left fun a mem => masked_of_live (live a mem)).trans (List.map_id l)
  have rowsLive : ∀ r ∈ rows, r.deleted = false := by
    intro r mem
    obtain ⟨a, inArticles, alike⟩ := exists_of_map_eq same mem
    rw [← masked_deleted, ← alike, masked_deleted]
    exact live a inArticles
  rw [← unmasked rowsLive, same, unmasked live]

/-- Users and migrations are as they were. -/
def Settled (db db' : Database) : Prop :=
  db'.tables.users = db.tables.users ∧ db'.tables.migrations = db.tables.migrations

theorem settled_openFrame : OpenFrame Settled where
  refl _ := ⟨rfl, rfl⟩
  trans h h' := ⟨h'.1.trans h.1, h'.2.trans h.2⟩
  supply _ _ := ⟨rfl, rfl⟩
  wallets _ _ := ⟨rfl, rfl⟩
  entries _ _ := ⟨rfl, rfl⟩
  products _ _ := ⟨rfl, rfl⟩

namespace Mirrors

variable {db : Database} {b b' : Books}

theorem opening (supply : Supply) (enforced : Bool) {pool : Pool} (free : pool.IsFree) :
    Mirrors (.opening [] supply [] enforced pool) (.opening [] supply.inOrder) :=
  ⟨rfl, rfl, rfl, free⟩

theorem users (h : Mirrors db b) : db.tables.users = some (b.users.map (⟨·, false⟩)) := by
  rw [h.tables]
  rfl

theorem stage (h : Mirrors db b) : Stage True db b := by
  refine ⟨⟨h.supply, ⟨_, h.users, sameUsers_rows b.users⟩, ?_, ⟨b.articles, ?_, rfl⟩, ?_⟩,
    fun _ => h.unguarded, fun _ => h.free⟩
  all_goals rw [h.tables]; rfl

/-- What the books answer to a call the database answers, and it mirrors the books after it. -/
theorem perform (h : Mirrors db b) (wf : b.WellFormed) (inBounds : b.InBounds)
    (limit : Option Duration) {call : StoreCall} {reply : Reply}
    (responds : b.respond manner call = .ok (reply, b')) (checked : call.Checked)
    (live : ∀ a ∈ b'.articles, a.deleted = false) :
    ∃ db', (storeOn .smooth).perform limit call db = (.ok reply, db') ∧ Mirrors db' b' := by
  have follows : Follows True b call _ :=
    perform_follows h.stage wf .smooth limit (fun _ => rfl) fun _ => ⟨inBounds, checked⟩
  have confined := perform_confined .smooth limit call db
  rcases run : (storeOn .smooth).perform limit call db with ⟨e | reply', db'⟩ <;>
    rw [run] at follows confined
  · rw [follows fun _ => trivial] at responds
    cases responds
  · obtain ⟨after, answered, stage⟩ := follows
    obtain ⟨rfl, rfl⟩ := Prod.mk.inj (Except.ok.inj (answered.symm.trans responds))
    have settled := perform_within settled_openFrame _ _ _ _ _ _ run
    obtain ⟨rows, products, same⟩ := stage.keeps.products
    obtain rfl := eq_of_masked_live same live
    refine ⟨db', rfl, ?_, stage.keeps.supply, stage.unguarded trivial, stage.free trivial⟩
    have users := (Books.respond_step responds).users_eq
    refine tables_eq ?_ stage.keeps.wallets products stage.keeps.entries ?_
    · rw [settled.1, users, h.users]
    · rw [settled.2, h.tables]
      rfl

/-- A user whose name and address are new is registered under the next identifier. -/
theorem register (h : Mirrors db b) (u : NewUser)
    (new : UserColumn.collision? (b.users.map (⟨·, false⟩)) u = none) :
    ∃ db', insertUser u db = .ok (NewUser.record u b.next, db') ∧
      Mirrors db' (b.enlist u) := by
  have registers := attempt_insertUser (u := u) h.free h.users
  rw [new] at registers
  unfold Query.attempt at registers
  rcases run : insertUser u db with e | ⟨user, db'⟩ <;> rw [run] at registers <;> cases registers
  refine ⟨db.enrol (b.users.map (⟨·, false⟩)) u, by rw [h.stage.next_eq], ?_, ?_, h.unguarded,
    h.free⟩
  · refine tables_eq ?_ ?_ ?_ ?_ ?_
    · simp [enrol, Books.enlist, Books.spend, h.stage.next_eq]
    all_goals
      simp only [enrol, h.tables]
      rfl
  · exact congrArg (fun s : Supply => s.spend 1 1) h.supply

end Mirrors

/-! ## Counting -/

section Count

variable {db : Database} {b : Books} (free : db.pool.IsFree) (tables : db.tables = tablesOf b)
include free tables

theorem countUsers_eq : countUsers db = .ok (b.users.length, db) := by
  have there : db.tables.users = some (b.users.map (⟨·, false⟩)) := by
    rw [tables]
    rfl
  have live : (b.users.map fun u => (⟨u, false⟩ : UserRow)).filter (fun r => !r.deleted) =
      b.users.map (⟨·, false⟩) :=
    List.filter_eq_self.mpr fun r mem => by
      obtain ⟨u, -, rfl⟩ := List.mem_map.mp mem
      rfl
  refine Query.Meets.run_eq (meets_bind (meets_acquire (fun _ => free.1) ?_))
  refine meets_bind (meets_users there (meets_pure ⟨?_, rfl⟩))
  rw [live, List.length_map]

theorem countWallets_eq : countWallets db = .ok (b.wallets.length, db) := by
  have there : db.tables.wallets = some b.wallets := by
    rw [tables]
    rfl
  refine Query.Meets.run_eq (meets_bind (meets_acquire (fun _ => free.1) ?_))
  exact meets_bind (meets_wallets there (meets_pure ⟨rfl, rfl⟩))

theorem countProducts_eq :
    countProducts db = .ok ((b.articles.filter fun a => !a.deleted).length, db) := by
  have there : db.tables.products = some b.articles := by
    rw [tables]
    rfl
  refine Query.Meets.run_eq (meets_bind (meets_acquire (fun _ => free.1) ?_))
  exact meets_bind (meets_products there (meets_pure ⟨rfl, rfl⟩))

end Count

end Database

end WalletLedger
