import WalletLedger.Proofs.Seed.OpeningBalances
import WalletLedger.Proofs.Seed.Population
import WalletLedger.Proofs.Seed.Scripts

/-!
# What seeding puts into a database

On a database that mirrors populated books, one more user (`yields_seedUser`) or product
(`yields_seedProduct`) leads to one that mirrors populated books again. So from an empty
database seeding comes to its end with all users and products in it (`yields_seed_empty`), and
on one that has users already it changes nothing (`yields_seed_populated`).
-/

namespace WalletLedger.Seed

open Memory Database Script

/-! ## The services on a database -/

section Serve

variable {limit : Duration} {db : Database} {b : Books} {user : String}

/-- What is told in other words is what was told. -/
theorem ok_of_map {α β : Type} {x : Attempt (StateM Database) α} {f : α → β}
    (distinct : Function.Injective f) {a : α} {db db' : Database}
    (h : (f <$> x : Attempt (StateM Database) β) db = (.ok (f a), db')) : x db = (.ok a, db') := by
  obtain ⟨a', run⟩ := map_ok h
  rw [Attempt.map_apply, run] at h
  rw [run, distinct (Except.ok.inj (congrArg Prod.fst h))]

variable (h : Mirrors db b) (wf : b.WellFormed) (inBounds : b.InBounds)
  (live : ∀ a ∈ b.articles, a.deleted = false)
include h wf inBounds live

/-- A user without a wallet gets one. -/
theorem initWallet_apply (limit : Duration) (named : Validation.userId user = .ok ())
    (vacant : b.wallet? user = none) :
    ∃ db', (services limit).initWallet user db =
        (.ok (.created (b.joined (b.newWallet user))), db') ∧
      Mirrors db' ((b.spend 1 1).addWallet (b.newWallet user)) := by
  have responds : b.respond Database.manner (.createWallet user) =
      .ok (.wallet (b.newWallet user), (b.spend 1 1).addWallet (b.newWallet user)) := by
    rw [Books.respond, vacant]
    rfl
  obtain ⟨db', made, mirrors⟩ := h.perform wf inBounds none responds trivial live
  have made : makeWallet user db = (.ok (b.newWallet user), db') :=
    ok_of_map (fun _ _ => Reply.wallet.inj) made
  have before : read (some limit) (walletByUser user) db = (.ok none, db) := by
    rw [(tells_walletByUser h.stage.readable).read_eq h.free.1, vacant]
    rfl
  have after : read (some limit) (walletByUser user) db' =
      (.ok (some (b.joined (b.newWallet user))), db') := by
    rw [(tells_walletByUser mirrors.stage.readable).read_eq mirrors.free.1,
      Books.wallet?_addWallet vacant]
    rfl
  refine ⟨db', ?_, mirrors⟩
  rw [Services.initWallet, named]
  show (read (some limit) (walletByUser user) >>= _) db = _
  rw [Attempt.bind_apply, before]
  show (makeWallet user >>= _) db = _
  rw [Attempt.bind_apply, made]
  show (read (some limit) (walletByUser user) >>= _) db' = _
  rw [Attempt.bind_apply, after]
  rfl

/-- Every amount above zero goes into an empty wallet. -/
theorem deposit_apply (unhurried : Cutoff.ofDeadline (some limit) = none)
    (named : Validation.userId user = .ok ()) {w : Wallet} (holder : b.wallet? user = some w)
    (empty : w.balance = .zero) {amount : Money} (positive : 0 < amount.value) :
    ∃ db', (services limit).deposit user amount db =
        (.ok (.created (b.newEntry w.id (.deposit amount) 1)), db') ∧
      Mirrors db' (b.post user w.id amount (.deposit amount) 1) := by
  obtain ⟨db', made, mirrors⟩ := h.perform wf inBounds none
    (Books.respond_first_deposit holder empty amount) positive live
  have made : (storeOn .smooth).deposit user amount db =
      (.ok (b.newEntry w.id (.deposit amount) 1), db') :=
    ok_of_map (fun _ _ => Reply.entry.inj) made
  refine ⟨db', ?_, mirrors⟩
  have rule : Validation.amount amount = .ok () := by
    simp [Validation.amount, Money.isPositive, positive]
  rw [Services.deposit, named, rule]
  show ((Database.store (some limit)).deposit user amount >>= _) db = _
  rw [store_of_unhurried unhurried, Attempt.bind_apply, made]
  rfl

/-- A product that passes its checks is added. -/
theorem createProduct_apply (limit : Duration) {fields : NewProduct}
    (sound : Validation.newProduct fields = .ok ()) :
    ∃ db', (services limit).createProduct fields db =
        (.ok (.created (b.newProduct fields)), db') ∧
      Mirrors db' ((b.spend 1 1).addProduct (b.newProduct fields)) := by
  have liveAfter (a : Article)
      (mem : a ∈ ((b.spend 1 1).addProduct (b.newProduct fields)).articles) :
      a.deleted = false := by
    rcases List.mem_append.mp mem with old | new
    · exact live a old
    · rw [List.mem_singleton.mp new]
  have responds : b.respond Database.manner (.insertProduct fields) =
      .ok (.product (b.newProduct fields), (b.spend 1 1).addProduct (b.newProduct fields)) := rfl
  obtain ⟨db', made, mirrors⟩ := h.perform wf inBounds none responds
    (bounds_of_newProduct sound) liveAfter
  have made : answer (insertProduct fields) db = (.ok (b.newProduct fields), db') :=
    ok_of_map (fun _ _ => Reply.product.inj) made
  refine ⟨db', ?_, mirrors⟩
  rw [Services.createProduct, sound]
  show (answer (insertProduct fields) >>= _) db = _
  rw [Attempt.bind_apply, made]
  rfl

end Serve

/-! ## Users and products -/

variable {limit : Duration} {hasher : Hasher} {balance : Money} {made : List (String × Int64)}
  {goods : List NewProduct} {db : Database} {b : Books}

/-- The password can be hashed for every user. -/
def Hasher.Succeeds (h : Hasher) : Prop :=
  ∀ user ∈ users, ∃ hash, h.hashPassword user.1 = .ok hash

/-- A database mirrors books into which these users and products were put. -/
def Holds (hasher : Hasher) (balance : Money) (made : List (String × Int64))
    (goods : List NewProduct) (db : Database) : Prop :=
  ∃ b, Mirrors db b ∧ b.Populated hasher balance made goods

theorem yields_seedUser (unhurried : Cutoff.ofDeadline (some limit) = none)
    (positive : 0 < balance.value) (holds : Holds hasher balance made goods db) {username : String}
    (new : username ∉ made.map Prod.fst) (hashed : ∃ hash, hasher.hashPassword username = .ok hash)
    (role : Int64) :
    (seedUser (services limit) hasher balance username role).Yields db fun _ db' =>
      Holds hasher balance (made ++ [(username, role)]) goods db' := by
  obtain ⟨b, mirrors, h⟩ := holds
  obtain ⟨hash, hashed⟩ := hashed
  obtain ⟨db₁, registered, mirrors₁⟩ :=
    mirrors.register (newUser username role hash) (h.collision?_eq_none new role hash)
  obtain ⟨db₂, initialized, mirrors₂⟩ := initWallet_apply mirrors₁
    (h.enlist_wellFormed _) (h.enlist_inBounds _) h.live limit (userId_id _ _) h.vacant
  refine yields_bind (yields_take hashed ?_)
  refine yields_bind (yields_ask registered (yields_bind (yields_serve initialized ?_)))
  by_cases ordinary : role = User.userRole
  · subst ordinary
    obtain ⟨db₃, deposited, mirrors₃⟩ := deposit_apply mirrors₂ (h.equip_wellFormed _)
      (h.equip_inBounds _) h.live unhurried (userId_id _ _) (h.wallet?_equip _) rfl positive
    simp only [↓reduceIte]
    refine yields_bind (yields_serve deposited (yields_say ?_))
    exact ⟨_, mirrors₃, h.addHolder hashed positive⟩
  · simp only [ordinary, ↓reduceIte]
    exact yields_say ⟨_, mirrors₂, h.addUser hashed ordinary⟩

theorem yields_seedProduct (holds : Holds hasher balance made goods db) {p : NewProduct}
    (bare : Text.strip p.name = p.name) (sound : Validation.newProduct p = .ok ()) :
    (seedProduct (services limit) p).Yields db fun _ db' =>
      Holds hasher balance made (goods ++ [p]) db' := by
  obtain ⟨b, mirrors, h⟩ := holds
  obtain ⟨db', created, mirrors'⟩ :=
    createProduct_apply mirrors h.wellFormed h.inBounds h.live limit sound
  refine yields_bind (yields_serve created (yields_say ?_))
  exact ⟨_, mirrors', h.addProduct bare (bounds_of_newProduct sound)⟩

/-! ## The whole script -/

theorem names_distinct : (users.map Prod.fst).Nodup := by decide

theorem products_sound : ∀ p ∈ products,
    Text.strip p.name = p.name ∧ Validation.newProduct p = .ok () := by decide +kernel

/-- Users for whom the password can be hashed are made one after another. -/
theorem yields_users (unhurried : Cutoff.ofDeadline (some limit) = none)
    (positive : 0 < balance.value) {rest : List (String × Int64)} (eq : users = made ++ rest)
    (hashes : ∀ user ∈ made, ∃ hash, hasher.hashPassword user.1 = .ok hash)
    (holds : Holds hasher balance [] [] db) :
    Script.Yields (made.forM fun user =>
      seedUser (services limit) hasher balance user.1 user.2) db fun _ db' =>
        Holds hasher balance made [] db' := by
  refine yields_forM (Holds hasher balance · []) holds fun before user after split db holds => ?_
  refine yields_seedUser unhurried positive holds (fun taken => ?_) (hashes user (by simp [split]))
    user.2
  have distinct := names_distinct
  rw [eq, split, List.append_assoc, List.map_append, List.cons_append, List.map_cons] at distinct
  exact (List.nodup_middle.mp distinct).notMem (List.mem_append_left _ taken)

/-- The counts that are told in the end change nothing. -/
theorem yields_populate (unhurried : Cutoff.ofDeadline (some limit) = none)
    (hashes : hasher.Succeeds) (positive : 0 < balance.value)
    (holds : Holds hasher balance [] [] db) :
    (populate (services limit) hasher balance).Yields db fun _ db' =>
      Holds hasher balance users products db' := by
  refine yields_bind (yields_say (yields_bind ?_))
  refine (yields_users unhurried positive (List.append_nil _).symm hashes holds).mono ?_
  refine fun _ db' holds => yields_bind (yields_say (yields_bind ?_))
  have madeProducts : Script.Yields (products.forM (seedProduct (services limit))) db'
      fun _ db' => Holds hasher balance users products db' := by
    refine yields_forM (Holds hasher balance users) holds fun goods p rest eq db holds => ?_
    obtain ⟨bare, sound⟩ := products_sound p (by simp [eq])
    exact yields_seedProduct holds bare sound
  refine madeProducts.mono fun _ db' holds => ?_
  obtain ⟨b, mirrors, -⟩ := id holds
  refine yields_bind (yields_say (yields_bind ?_))
  refine yields_ask (countUsers_eq mirrors.free mirrors.tables) (yields_bind (yields_say ?_))
  refine yields_bind (yields_ask (countWallets_eq mirrors.free mirrors.tables) ?_)
  refine yields_bind (yields_say (yields_bind ?_))
  refine yields_ask (countProducts_eq mirrors.free mirrors.tables) (yields_bind (yields_say ?_))
  exact yields_say holds

/-- The users before the first whose password cannot be hashed are made. -/
theorem stops_populate (unhurried : Cutoff.ofDeadline (some limit) = none)
    (positive : 0 < balance.value) {username text : String} {role : Int64}
    {rest : List (String × Int64)} (eq : users = made ++ (username, role) :: rest)
    (hashes : ∀ user ∈ made, ∃ hash, hasher.hashPassword user.1 = .ok hash)
    (failed : hasher.hashPassword username = .error text) (holds : Holds hasher balance [] [] db) :
    (populate (services limit) hasher balance).Stops db ("Error: " ++ Text.quoted text) fun db' =>
      Holds hasher balance made [] db' := by
  refine stops_bind (yields_say (stops_left ?_))
  rw [eq]
  refine stops_forM ((yields_users unhurried positive eq hashes holds).mono fun _ db' holds => ?_)
  exact stops_left (stops_take failed holds)

/-- An empty database is not passed over. -/
theorem counts_of_empty (holds : Holds hasher balance [] [] db) :
    Database.countUsers db = .ok (0, db) ∧ Database.countProducts db = .ok (0, db) := by
  obtain ⟨b, mirrors, h⟩ := holds
  have noUsers : b.users.length = 0 := h.length_users
  have noProducts : (b.articles.filter fun a => !a.deleted).length = 0 := by
    have none := congrArg List.length h.products
    rw [List.length_map] at none
    rw [List.eq_nil_of_length_eq_zero none]
    rfl
  rw [← noUsers, countUsers_eq mirrors.free mirrors.tables, noUsers, ← noProducts]
  exact ⟨rfl, countProducts_eq mirrors.free mirrors.tables⟩

/-- An empty database is populated. -/
theorem yields_seed_empty (unhurried : Cutoff.ofDeadline (some limit) = none)
    (hashes : hasher.Succeeds) (positive : 0 < balance.value)
    (holds : Holds hasher balance [] [] db) :
    (seed (services limit) hasher balance).Yields db fun _ db' =>
      Holds hasher balance users products db' := by
  obtain ⟨noUsers, noProducts⟩ := counts_of_empty holds
  refine yields_bind (yields_say (yields_bind (yields_ask noUsers (yields_bind ?_))))
  exact yields_ask noProducts (yields_populate unhurried hashes positive holds)

/-- An empty database gets the users before the first whose password cannot be hashed. -/
theorem stops_seed_empty (unhurried : Cutoff.ofDeadline (some limit) = none)
    (positive : 0 < balance.value) {username text : String} {role : Int64}
    {rest : List (String × Int64)} (eq : users = made ++ (username, role) :: rest)
    (hashes : ∀ user ∈ made, ∃ hash, hasher.hashPassword user.1 = .ok hash)
    (failed : hasher.hashPassword username = .error text) (holds : Holds hasher balance [] [] db) :
    (seed (services limit) hasher balance).Stops db ("Error: " ++ Text.quoted text) fun db' =>
      Holds hasher balance made [] db' := by
  obtain ⟨noUsers, noProducts⟩ := counts_of_empty holds
  refine stops_bind (yields_say (stops_bind (yields_ask noUsers (stops_bind ?_))))
  exact yields_ask noProducts (stops_populate unhurried positive eq hashes failed holds)

/-- A database that has users is left as it is. -/
theorem yields_seed_populated (free : db.pool.IsFree) (tables : db.tables = tablesOf b)
    (some : 0 < b.users.length) (limit : Duration) (hasher : Hasher) (balance : Money) :
    (seed (services limit) hasher balance).Yields db fun _ db' => db' = db := by
  refine yields_bind (yields_say (yields_bind ?_))
  refine yields_ask (countUsers_eq free tables) (yields_bind ?_)
  refine yields_ask (countProducts_eq free tables) ?_
  rw [if_pos (.inl some)]
  exact yields_say rfl

end WalletLedger.Seed
