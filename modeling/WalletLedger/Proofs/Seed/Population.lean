import WalletLedger.Proofs.Books.Isolation
import WalletLedger.Proofs.Database.Mirrors
import WalletLedger.Proofs.Services.Checks
import WalletLedger.Seed

/-!
# Books that were populated

Books are `Populated` with users and products when these were made one after another and
nothing else was: every user has one wallet, an ordinary user's holds the opening balance and
one deposit of it, an administrator's is empty, and every product is in the catalog. The hash
that a user has is the one that hashing the password came to. A new user with a wallet
(`Populated.addUser`), with the opening deposit for an ordinary one (`Populated.addHolder`),
and a new product (`Populated.addProduct`) lead to populated books.
-/

namespace WalletLedger

open Memory Database

/-- Of rows that differ in a key, one is the only one with its own. -/
theorem filter_eq_singleton {α β : Type} [BEq β] [LawfulBEq β] {key : α → β} {rows : List α}
    (distinct : (rows.map key).Nodup) {a : α} (mem : a ∈ rows) :
    rows.filter (key · == key a) = [a] := by
  induction rows with
  | nil => cases mem
  | cons r rows ih =>
    rw [List.map_cons, List.nodup_cons] at distinct
    rcases List.mem_cons.mp mem with rfl | later
    · have others : rows.filter (key · == key a) = [] :=
        List.filter_eq_nil_iff.mpr fun r there same =>
          distinct.1 (beq_iff_eq.mp same ▸ List.mem_map_of_mem there)
      rw [List.filter_cons, if_pos (beq_self_eq_true _), others]
    · rw [List.filter_cons_of_neg, ih distinct.2 later]
      rw [beq_iff_eq]
      exact fun same => distinct.1 (same ▸ List.mem_map_of_mem later)

/-- The stamp under which a user was registered. -/
def User.stamp (u : User) : Stamp := ⟨u.id, u.createdAt⟩

/-- What a product was made from. -/
def Product.fields (p : Product) : NewProduct := ⟨p.name, p.description, p.price, p.stock⟩

namespace Seed

/-- What a user is registered with. -/
def newUser (username : String) (role : Int64) (hash : String) : NewUser :=
  ⟨username, username ++ "@example.com", hash, role⟩

/-- The money that a user starts with: only ordinary users get any. -/
def openingMoney (balance : Money) (role : Int64) : Money :=
  if role = User.userRole then balance else .zero

end Seed

namespace Memory.Books

open Seed

/-- The wallet of a user who was registered before. -/
def firstWallet (b : Books) (u : NewUser) : Wallet :=
  (b.enlist u).newWallet b.next.id

/-- The books after a user was registered and got a wallet. -/
def equip (b : Books) (u : NewUser) : Books :=
  ((b.enlist u).spend 1 1).addWallet (b.firstWallet u)

/-- The books after a first deposit into the wallet that a user got. -/
def endow (b : Books) (u : NewUser) (amount : Money) : Books :=
  (b.equip u).post b.next.id (b.firstWallet u).id amount (.deposit amount) 1

/-- The users and the products were put into the books, and nothing else was. -/
structure Populated (hasher : Hasher) (balance : Money) (made : List (String × Int64))
    (goods : List NewProduct) (b : Books) : Prop where
  wellFormed : b.WellFormed
  inBounds : b.InBounds
  stamps : Issued b.supply (b.users.map User.stamp)
  users : b.users.map (fun u => (u.username, u.roleId)) = made
  hashes : ∀ u ∈ b.users, hasher.hashPassword u.username = .ok u.passwordHash
  records : ∀ u ∈ b.users,
    u = NewUser.record (newUser u.username u.roleId u.passwordHash) u.stamp
  wallets : b.wallets.map (fun w => (w.userId, w.balance)) =
    b.users.map fun u => (u.id, openingMoney balance u.roleId)
  entries : b.entries.map (fun e => (e.walletId, e.kind)) =
    (b.wallets.filter fun w => 0 < w.balance.value).map fun w => (w.id, .deposit w.balance)
  products : b.articles.map (fun a => (a.product.fields, a.deleted)) = goods.map (·, false)

namespace Populated

variable {hasher : Hasher} {balance : Money} {made : List (String × Int64)}
  {goods : List NewProduct} {b b' : Books} {username hash : String} {role : Int64}

theorem start (hasher : Hasher) (balance : Money) (supply : Supply) :
    (Books.opening [] supply).Populated hasher balance [] [] :=
  ⟨opening_wellFormed .., opening_inBounds .., .nil _, rfl, by simp [Books.opening],
    by simp [Books.opening], rfl, rfl, rfl⟩

theorem length_users (h : b.Populated hasher balance made goods) :
    b.users.length = made.length := by
  rw [← h.users, List.length_map]

theorem live (h : b.Populated hasher balance made goods) : ∀ a ∈ b.articles, a.deleted = false := by
  intro a mem
  have made := List.mem_map_of_mem (f := fun a : Article => (a.product.fields, a.deleted)) mem
  rw [h.products, List.mem_map] at made
  obtain ⟨p, -, same⟩ := made
  exact (congrArg Prod.snd same).symm

/-- Nobody has a wallet under the next identifier. -/
theorem vacant (h : b.Populated hasher balance made goods) : b.wallet? b.next.id = none := by
  refine wallet?_eq_none.mpr fun w mem own => h.stamps.fresh ?_
  have owner := List.mem_map_of_mem (f := fun w : Wallet => (w.userId, w.balance)) mem
  rw [h.wallets, List.mem_map] at owner
  obtain ⟨u, there, same⟩ := owner
  rw [List.map_map]
  exact List.mem_map.mpr ⟨u, there, (congrArg Prod.fst same).trans own⟩

/-- A name that nobody has is new to both columns. -/
theorem collision?_eq_none (h : b.Populated hasher balance made goods)
    (new : username ∉ made.map Prod.fst) (role : Int64) (hash : String) :
    UserColumn.collision? (b.users.map (⟨·, false⟩)) (newUser username role hash) = none := by
  have others : ∀ u ∈ b.users, u.username ≠ username := by
    rintro u mem rfl
    refine new ?_
    rw [← h.users, List.map_map]
    exact List.mem_map_of_mem (f := fun u : User => u.username) mem
  refine UserColumn.collision?_eq_none_iff.mpr fun c => ?_
  rintro ⟨r, mem, same⟩
  obtain ⟨u, there, rfl⟩ := List.mem_map.mp mem
  refine others u there ?_
  cases c with
  | username => exact same
  | email =>
    have address : u.email = username ++ "@example.com" := same
    rw [h.records u there] at address
    exact String.append_left_inj _ |>.mp address

/-! ## One more row -/

/-- A user with a wallet is added, and a deposit of what is in the wallet, if anything is. -/
theorem addRows (h : b.Populated hasher balance made goods) {w : Wallet} {deposits : List Entry}
    (wellFormed : b'.WellFormed) (inBounds : b'.InBounds)
    (hashed : hasher.hashPassword username = .ok hash) (later : b.supply.spend 1 1 ≤ b'.supply)
    (users : b'.users = b.users ++ [NewUser.record (newUser username role hash) b.next])
    (wallets : b'.wallets = b.wallets ++ [w]) (owner : w.userId = b.next.id)
    (holds : w.balance = openingMoney balance role) (entries : b'.entries = b.entries ++ deposits)
    (deposited : deposits.map (fun e => (e.walletId, e.kind)) =
      if 0 < w.balance.value then [(w.id, .deposit w.balance)] else [])
    (articles : b'.articles = b.articles) :
    b'.Populated hasher balance (made ++ [(username, role)]) goods := by
  refine ⟨wellFormed, inBounds, ?_, ?_, ?_, ?_, ?_, ?_, articles ▸ h.products⟩
  · rw [users, List.map_append]
    exact (h.stamps.append Nat.zero_lt_one).mono later
  · rw [users, List.map_append, h.users]
    rfl
  · intro u mem
    rw [users] at mem
    rcases List.mem_append.mp mem with old | new
    · exact h.hashes u old
    · rw [List.mem_singleton.mp new]
      exact hashed
  · intro u mem
    rw [users] at mem
    rcases List.mem_append.mp mem with old | new
    · exact h.records u old
    · rw [List.mem_singleton.mp new]
      rfl
  · rw [wallets, users, List.map_append, List.map_append, h.wallets]
    simp [owner, holds, NewUser.record, newUser]
  · rw [entries, wallets, List.map_append, List.filter_append, List.map_append, h.entries,
      deposited]
    by_cases money : 0 < w.balance.value <;> simp [money]

theorem enlist_wellFormed (h : b.Populated hasher balance made goods) (u : NewUser) :
    (b.enlist u).WellFormed :=
  (h.wellFormed.spend 1 1).withUsers _

theorem enlist_inBounds (h : b.Populated hasher balance made goods) (u : NewUser) :
    (b.enlist u).InBounds :=
  ⟨h.inBounds.balances, h.inBounds.prices, h.inBounds.stocks, h.inBounds.amounts,
    h.inBounds.quantities⟩

theorem equip_step (h : b.Populated hasher balance made goods) (u : NewUser) :
    Step (b.enlist u) (.createWallet b.next.id) (.wallet (b.firstWallet u)) (b.equip u) :=
  .createWallet h.vacant

theorem equip_wellFormed (h : b.Populated hasher balance made goods) (u : NewUser) :
    (b.equip u).WellFormed :=
  (h.equip_step u).wellFormed (h.enlist_wellFormed u)

theorem equip_inBounds (h : b.Populated hasher balance made goods) (u : NewUser) :
    (b.equip u).InBounds :=
  (h.equip_step u).inBounds trivial (h.enlist_inBounds u)

theorem wallet?_equip (h : b.Populated hasher balance made goods) (u : NewUser) :
    (b.equip u).wallet? b.next.id = some (b.firstWallet u) :=
  wallet?_addWallet (b := b.enlist u) h.vacant

/-- A user who gets no money is added. -/
theorem addUser (h : b.Populated hasher balance made goods)
    (hashed : hasher.hashPassword username = .ok hash) (other : role ≠ User.userRole) :
    (b.equip (newUser username role hash)).Populated hasher balance
      (made ++ [(username, role)]) goods :=
  h.addRows (h.equip_wellFormed _) (h.equip_inBounds _) hashed (Supply.le_spend _ 1 1) rfl rfl rfl
    (if_neg other).symm (List.append_nil _).symm rfl rfl

/-- No wallet is written but that of the user. -/
theorem wallets_endow (h : b.Populated hasher balance made goods) (u : NewUser) (amount : Money) :
    (b.endow u amount).wallets = b.wallets ++
      [{ b.firstWallet u with balance := amount, updatedAt := (b.equip u).next.time }] := by
  show (b.wallets ++ [b.firstWallet u]).map _ = _
  rw [List.map_append]
  refine congrArg₂ (· ++ ·) ?_ (congrArg List.singleton (if_pos rfl))
  refine (List.map_congr_left fun w mem => ?_).trans (List.map_id _)
  exact if_neg (wallet?_eq_none.mp h.vacant w mem)

/-- An ordinary user is added, who gets money. -/
theorem addHolder (h : b.Populated hasher balance made goods)
    (hashed : hasher.hashPassword username = .ok hash) (positive : 0 < balance.value) :
    (b.endow (newUser username User.userRole hash) balance).Populated hasher balance
      (made ++ [(username, User.userRole)]) goods := by
  have step : Step (b.equip _) (.deposit b.next.id balance) _ (b.endow _ balance) :=
    .deposit (h.wallet?_equip (newUser username User.userRole hash)) (Int.zero_add _).symm
  have later : b.supply.spend 1 1 ≤
      (b.endow (newUser username User.userRole hash) balance).supply :=
    Supply.le_trans (Supply.le_spend _ 1 1) (Supply.le_spend _ 1 2)
  exact h.addRows (step.wellFormed (h.equip_wellFormed _))
    (step.inBounds positive (h.equip_inBounds _)) hashed later rfl (h.wallets_endow _ balance) rfl
    rfl rfl (if_pos positive).symm rfl

/-- A product is added under the name that it was given. -/
theorem addProduct (h : b.Populated hasher balance made goods) {p : NewProduct}
    (bare : Text.strip p.name = p.name) (sound : 0 < p.price.value ∧ 0 ≤ p.stock.toInt) :
    ((b.spend 1 1).addProduct (b.newProduct p)).Populated hasher balance made (goods ++ [p]) := by
  have step : Step b (.insertProduct p) _ _ := .insertProduct
  refine ⟨step.wellFormed h.wellFormed, step.inBounds sound h.inBounds, h.stamps.spend 1 1, h.users,
    h.hashes, h.records, h.wallets, h.entries, ?_⟩
  show (b.articles ++ [_]).map _ = _
  rw [List.map_append, List.map_append, h.products]
  simp [Product.fields, newProduct, bare]

/-! ## What a user has -/

/-- Every user has one wallet, with the money of the role. In an ordinary user's there is one
deposit, of what is in it, and in that of another user there is none. -/
theorem account (h : b.Populated hasher balance made goods) (positive : 0 < balance.value)
    {u : User} (mem : u ∈ b.users) :
    ∃ w, b.wallets.filter (·.userId == u.id) = [w] ∧ w.balance = openingMoney balance u.roleId ∧
      (b.entries.filter (·.walletId == w.id)).map (·.kind) =
        if u.roleId = User.userRole then [.deposit w.balance] else [] := by
  have own : (u.id, openingMoney balance u.roleId) ∈
      b.wallets.map fun w => (w.userId, w.balance) := by
    rw [h.wallets]
    exact List.mem_map_of_mem (f := fun u : User => (u.id, openingMoney balance u.roleId)) mem
  obtain ⟨w, there, same⟩ := List.mem_map.mp own
  obtain ⟨owner, holds⟩ := Prod.mk.inj same
  refine ⟨w, owner ▸ filter_eq_singleton h.wellFormed.owners there, holds, ?_⟩
  have kinds : (b.entries.filter (·.walletId == w.id)).map (·.kind) =
      ((b.wallets.filter (·.id == w.id)).filter fun w => 0 < w.balance.value).map
        fun w => .deposit w.balance := by
    have listed := congrArg (fun l => (l.filter (·.1 == w.id)).map Prod.snd) h.entries
    simp only [List.filter_map, List.map_map, Function.comp_def] at listed
    rw [listed, List.filter_filter, List.filter_filter]
    simp only [Bool.and_comm]
  rw [kinds, filter_eq_singleton h.wellFormed.walletIds there]
  unfold openingMoney at holds
  by_cases ordinary : u.roleId = User.userRole
  · rw [if_pos ordinary] at holds ⊢
    simp [holds, positive]
  · rw [if_neg ordinary] at holds ⊢
    simp [holds, Money.value, Money.zero]

end Populated

end Memory.Books

end WalletLedger
