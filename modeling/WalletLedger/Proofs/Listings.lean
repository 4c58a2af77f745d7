import WalletLedger.Proofs.Books.Listings
import WalletLedger.Proofs.Books.Views
import WalletLedger.Proofs.Chronicle
import WalletLedger.Proofs.Schema
import WalletLedger.Proofs.Stocks

/-!
# Listings and lookups agree

In every state that a store comes to, the lists of wallets and of products and
the lookups of one of them tell the same (`listings_agree`): wallets are listed
as they were made, with the live identity records of their owners, products by
name, each once, and a lookup finds what is listed and nothing else. Products of
one name are listed by age in a database, and in memory only if the map that
holds them yields them so (`newer_tea_is_listed_first`). The books of every state
are listed so (`Follows.listsAgree`); what is left to each store is that it has
one identity record under an identifier, which it keeps whatever happens to it
(`Memory.unique_users`, `Database.knowsUsers`).
-/

namespace WalletLedger

open Memory

namespace Conduct

variable {W M : Type}

/-- These wallets and products are listed in a state with these identity records, to which
calls were answered that are past, and the lookups agree with it. Products of one name may be
kept in the order in which they were made, or not. -/
structure ListsAgree (c : Conduct W M) (orderly : Prop) (past : List Answered) (w : W)
    (users : List User) (wallets : List Wallet) (products : List Product) : Prop where
  /-- However the list of wallets ends, it is this one. -/
  listWallets : c.Answers w .listWallets (.wallets wallets)
  /-- Its wallets are those that were made, each of them once, -/
  made : wallets.map Wallet.origin = (walletsMade past).map Wallet.origin
  /-- oldest first. -/
  oldestFirst : wallets.Pairwise fun v v' => v.createdAt.Precedes v'.createdAt
  /-- The wallet of a user is the one that is listed, and there is none if none is. -/
  walletByUser : ∀ user, ∃ found, c.Answers w (.walletByUser user) (.ofOption .wallet found) ∧
    ∀ v, found = some v ↔ v ∈ wallets ∧ v.userId = user
  /-- A wallet has the identity record of its owner, exactly if there is one. -/
  identities : ∀ v ∈ wallets, ∀ u, v.user = some u ↔ u ∈ users ∧ u.id = v.userId
  /-- However the list of products ends, it is this one. -/
  listProducts : c.Answers w .listProducts (.products products)
  /-- Its products are those that were made and not taken out, -/
  kept : ∀ id, id ∈ products.map (·.id) ↔
    id ∈ (productsMade past).map (·.id) ∧ ¬ TakenOut past id
  /-- each of them once, -/
  once : (products.map (·.id)).Nodup
  /-- by name, and if their order is kept then by age. -/
  byName : products.Pairwise (Product.ListedBefore orderly)
  /-- The product of an identifier is the one that is listed, and there is none if none is. -/
  productById : ∀ id, ∃ found, c.Answers w (.productById id) (.ofOption .product found) ∧
    ∀ p, found = some p ↔ p ∈ products ∧ p.id = id

theorem ListsAgree.owners {c : Conduct W M} {orderly : Prop} {past : List Answered} {w : W}
    {users : List User} {wallets : List Wallet} {products : List Product}
    (h : c.ListsAgree orderly past w users wallets products) :
    wallets.map (·.userId) = (walletsMade past).map (·.userId) := by
  have owners := congrArg (List.map fun origin => origin.2.1) h.made
  rwa [List.map_map, List.map_map] at owners

/-- The wallets and the products of books are those that were made. -/
structure Accounts (past : List Answered) (b : Books) : Prop extends b.Catalogued past where
  wallets : b.wallets.map Wallet.origin = (walletsMade past).map Wallet.origin

theorem Accounts.step {past : List Answered} {b b' : Books} {call : StoreCall} {reply : Reply}
    (h : Accounts past b) (wf : b.WellFormed) (step : Books.Step b call reply b') :
    Accounts (past ++ [⟨call, reply⟩]) b' := by
  refine ⟨step.catalogued wf h.toCatalogued, ?_⟩
  rw [step.origins_eq, h.wallets, walletsMade_concat, List.map_append]
  rcases Answered.wallet? ⟨call, reply⟩ with _ | w <;> rfl

theorem accounts_opening (users : List User) (supply : Supply) :
    Accounts [] (.opening users supply) :=
  ⟨⟨rfl, fun _ mem => absurd mem List.not_mem_nil, fun _ taken => absurd taken List.not_mem_nil⟩,
    rfl⟩

namespace Follows

variable {c : Conduct W M} {holds : W → Books → Prop} {start w : W} {past : List Answered}

/-- A state lists the books that it holds. -/
theorem listsAgree (follows : c.Follows holds) {b : Books} (held : holds w b) (wf : b.WellFormed)
    (accounts : Accounts past b) {users : List User}
    (known : ∀ id, b.user? id = users.find? (·.id == id)) (unique : (users.map (·.id)).Nodup) :
    c.ListsAgree b.supply.source.IsOrderly past w users b.listWallets b.listProducts := by
  have wallets : b.listWallets = b.wallets.map b.joined := Books.listWallets_eq wf
  refine {
    listWallets := follows.answers held wf rfl
    made := ?_
    oldestFirst := ?_
    walletByUser := fun user =>
      ⟨_, follows.answers held wf rfl, fun _ => Books.joined_eq_some_iff wf⟩
    identities := fun v listed u => ?_
    listProducts := follows.answers held wf rfl
    kept := fun _ => accounts.mem_listed
    once := Books.nodup_listProducts wf
    byName := Books.listProducts_inOrder wf
    productById := fun id =>
      ⟨_, follows.answers held wf rfl, fun _ => Books.product?_eq_some_iff_listed wf⟩ }
  · rw [wallets, ← accounts.wallets, List.map_map]
    rfl
  · rw [wallets]
    exact List.pairwise_map.mpr wf.wallets_inOrder
  · rw [wallets] at listed
    obtain ⟨v, -, rfl⟩ := List.mem_map.mp listed
    exact Books.joined_user_iff known unique

/-- A run that starts without wallets and products leads to accounts of those that it made. -/
theorem accounts (follows : c.Follows holds) {users : List User} {supply : Supply}
    (held : holds start (.opening users supply)) (run : Chronicle c start past w) :
    ∃ b, holds w b ∧ b.WellFormed ∧ Accounts past b :=
  run.keeps (P := Accounts) follows held (Books.opening_wellFormed users supply)
    (accounts_opening users supply) (fun accounts wf step => accounts.step wf step)
    fun _ _ accounts => ⟨⟨accounts.made, accounts.gone, accounts.known⟩, accounts.wallets⟩

end Follows

end Conduct

/-! ## In memory -/

namespace Memory

/-- No two identity records share an identifier, whatever happens to a memory store. -/
theorem unique_users {start w : World Memory} {past : List Answered}
    (wf : start.store.books.WellFormed) (unique : (start.store.books.users.map (·.id)).Nodup)
    (run : Chronicle conduct start past w) : (w.store.books.users.map (·.id)).Nodup := by
  refine run.always (I := fun w => (w.store.books.users.map (·.id)).Nodup) follows rfl wf unique
    (fun {w b manner call r w'} _ _ unique ended => ?_) fun {w w'} unique happened => ?_
  · cases perform_ends ended with
    | answered result =>
      have same := (Books.respond_step result).users_eq
      exact same ▸ unique
    | _ => exact unique
  · rcases happened with same | ⟨user, rfl⟩
    · rw [same]
      exact unique
    · exact Books.nodup_putUser unique _

end Memory

/-! ## In a database -/

namespace Database

/-- These are the identity records of a database, deleted ones included. No two share an
identifier, and none has one that is still to be given out. -/
structure KnowsUsers (db : Database) (rows : List UserRow) : Prop where
  table : db.tables.users = some rows
  unique : (rows.map (·.user.id)).Nodup
  known : ∀ row ∈ rows, ¬ db.supply.Offers row.user.id

namespace KnowsUsers

variable {db db' : Database} {rows : List UserRow}

/-- A call of the store writes no users. -/
theorem ends (h : KnowsUsers db rows) {b : Books} (keeps : Keeps db b) (wf : b.WellFormed)
    {manner : Course × Option Duration} {call : StoreCall} {r : Except Failure Reply}
    (ended : conduct.ends manner call db r db') : KnowsUsers db' rows := by
  rcases r with e | reply
  · obtain rfl := perform_atomic _ _ call db e db' ended
    exact h
  · obtain ⟨b', step, keeps'⟩ := follows.answered keeps wf ended
    have same : db'.tables.users = db.tables.users :=
      perform_within Upholds.users_openFrame _ _ call db reply db' ended
    have later : db.supply.inOrder ≤ db'.supply.inOrder := by
      rw [keeps.supply, keeps'.supply]
      exact step.supply_le
    have offered {id : String} (offers : db'.supply.Offers id) : db.supply.Offers id :=
      Supply.Offers.of_le (t := db'.supply.inOrder) (s := db.supply.inOrder) offers later
    exact ⟨same.trans h.table, h.unique, fun row mem offers => h.known row mem (offered offers)⟩

/-- A user who is registered is given an identifier that nobody has. -/
theorem register (h : KnowsUsers db rows) (u : NewUser) :
    ∃ rows, KnowsUsers ((insertUser u).attempt db).2 rows := by
  unfold Query.attempt
  rcases run : insertUser u db with e | ⟨user, db'⟩
  · exact ⟨rows, h⟩
  obtain ⟨old, there, -, -, -, -, own, rfl⟩ := insertUser_ok run
  obtain rfl : old = rows := Option.some.inj (there.symm.trans h.table)
  refine ⟨old ++ [⟨user, false⟩], rfl, ?_, fun row mem offers => ?_⟩
  · refine Upholds.nodup_append_row h.unique fun row mem same => h.known row mem ?_
    rw [same]
    exact own ▸ db.supply.offers_next
  · rcases List.mem_append.mp mem with mem | mem
    · exact h.known row mem (offers.of_le (db.supply.le_spend 1 1))
    · rw [List.mem_singleton.mp mem] at offers
      exact db.supply.not_offers_next 0 1 (own ▸ offers)

theorem happens (h : KnowsUsers db rows) (happened : conduct.happens db db') :
    ∃ rows, KnowsUsers db' rows := by
  rcases happened with ⟨guards, enforced, pool, rfl⟩ | ⟨user, rfl⟩
  · exact ⟨rows, h.table, h.unique, h.known⟩
  · exact h.register user

end KnowsUsers

/-- A database has one identity record under an identifier, whatever happens to it. -/
theorem knowsUsers {start db : Database} {b : Books} {rows : List UserRow} {past : List Answered}
    (keeps : Keeps start b) (wf : b.WellFormed) (known : KnowsUsers start rows)
    (run : Chronicle conduct start past db) : ∃ rows, KnowsUsers db rows :=
  run.always (I := fun db => ∃ rows, KnowsUsers db rows) follows keeps wf ⟨rows, known⟩
    (fun keeps wf ⟨rows, known⟩ ended => ⟨rows, known.ends keeps wf ended⟩)
    fun ⟨_, known⟩ happened => known.happens happened

theorem nodup_liveUsers {rows : List UserRow} (unique : (rows.map (·.user.id)).Nodup) :
    ((liveUsers rows).map (·.id)).Nodup := by
  rw [liveUsers, List.map_map]
  exact unique.sublist (List.filter_sublist.map _)

end Database

/-- Wallets are made for somebody who is not known and for somebody who is; of four products two
share a name, and one is taken out. -/
def shopCalls : List StoreCall :=
  [.createWallet "v", .createWallet "u", .insertProduct tea, .insertProduct ⟨"Coffee", "", ⟨90⟩, 1⟩,
    .insertProduct tea, .insertProduct ⟨"Cake", "", ⟨300⟩, 2⟩, .deleteProduct (Uuid.numbered 6)]

/-- A source of maps that yield last what was put in first. -/
def Source.reversing : Source :=
  { Source.counting with
    walletOrder := List.reverse
    articleOrder := List.reverse
    walletOrder_perm := List.reverse_perm
    articleOrder_perm := List.reverse_perm }

end WalletLedger
