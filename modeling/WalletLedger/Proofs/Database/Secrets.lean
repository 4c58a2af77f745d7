import WalletLedger.Proofs.Database.Calls
import WalletLedger.Proofs.Services.Secrets

/-!
# Secrets in a database

Two databases that are the same but for password hashes answer every call
alike, as far as it is seen through `Veil.secrets`, and stay the same but for
hashes (`perform_discreet`). Writes, and most reads, ignore the table of users;
the reads that join its rows to wallets show their hashes to nobody. A user may
also be inserted with another hash (`insertUser_discreet`).
-/

namespace WalletLedger

/-- The row without the secret of the user. -/
def Database.UserRow.withoutSecret (r : Database.UserRow) : Database.UserRow :=
  { r with user := r.user.withoutSecret }

/-- The record without its secret. -/
def NewUser.withoutSecret (u : NewUser) : NewUser :=
  { u with passwordHash := "" }

/-- The table of users. -/
def Database.identities : Part Database (Option (List Database.UserRow)) where
  get db := db.tables.users
  put users db := db.withUsers users
  put_get _ := rfl
  get_put _ _ := rfl
  put_put _ _ _ := rfl

/-- The database without the secrets of users. -/
def Database.withoutSecrets (db : Database) : Database :=
  Database.identities.change (Option.map (List.map Database.UserRow.withoutSecret)) db

namespace Database

variable {α β γ δ : Type}

/-! ## What ignores users -/

/-- A query comes to the same whatever users there are, and leaves them alone. -/
def Query.IgnoresUsers (q : Query α) : Prop :=
  ∀ db users, q (db.withUsers users) = (q db).map fun (a, after) => (a, after.withUsers users)

theorem Query.ignoresUsers_openSteps : OpenSteps IgnoresUsers where
  bind {_ _ q f} hq hf db users := by
    simp only [bind, StateT.bind, Except.bind, hq db users]
    rcases q db with e | ⟨a, after⟩
    · rfl
    · exact hf a after users
  pure _ _ _ := rfl
  throw _ _ _ := rfl
  look {_ f} same hf db users := by
    show f (db.withUsers users) (db.withUsers users) = _
    rw [same]
    exact hf db db users
  newId _ _ := rfl
  readClock _ _ := rfl
  setWallets _ _ _ := rfl
  setEntries _ _ _ := rfl
  setProducts _ _ _ := rfl
  naming value q hq db users := by
    unfold naming
    rw [hq db users]
    rcases q db with e | _
    · cases e <;> rfl
    · rfl

/-- Steps come to the same whatever users there are, and leave them alone. -/
def Work.IgnoresUsers (x : Work α) : Prop :=
  ∀ t users, x { t with database := t.database.withUsers users } =
    ((x t).1, { (x t).2 with database := (x t).2.database.withUsers users })

theorem Work.ignoresUsers_stepwise : Stepwise Query.IgnoresUsers IgnoresUsers where
  queries := Query.ignoresUsers_openSteps.toLedgerSteps
  bind {_ _ x f} hx hf t users := by
    rw [Attempt.bind_apply, Attempt.bind_apply, hx t users]
    rcases x t with ⟨e | a, after⟩
    · rfl
    · exact hf a after users
  pure _ _ _ := rfl
  throw _ _ _ := rfl
  tick t users := by
    unfold tick
    rcases t with ⟨db, _ | ⟨limit, _ | n⟩⟩ <;> rfl
  query {_ q} hq t users := by
    unfold query
    rw [hq t.database users]
    rcases q t.database with e | ⟨a, after⟩ <;> rfl

/-- An operation comes to the same whatever users there are, and leaves them alone. -/
def IgnoresUsers (x : Attempt (StateM Database) α) : Prop :=
  ∀ db users, x (db.withUsers users) = ((x db).1, (x db).2.withUsers users)

theorem IgnoresUsers.onStore {x : Attempt (StateM Database) α} (h : IgnoresUsers x) :
    Ignores identities (World.onStore _ x : Attempt (StateM (World Database)) α) := by
  intro users w
  have same : x (identities.put users w.store) = _ := h w.store users
  simp only [World.onStore, same]
  rfl

theorem answer_ignoresUsers {q : Query α} (h : q.IgnoresUsers) : IgnoresUsers (answer q) := by
  intro db users
  unfold answer
  rw [h db users]
  rcases q db with e | ⟨a, after⟩ <;> rfl

theorem read_ignoresUsers {q : Query α} (h : q.IgnoresUsers) (limit : Option Duration) :
    IgnoresUsers (read limit q) := by
  rcases limit with _ | d
  · exact answer_ignoresUsers h
  · intro db users
    by_cases late : db.pool.isOpen && db.pool.isExhausted && d.nanos < db.pool.patience.nanos
    · rw [show read (some d) q db = _ from if_pos late]
      exact if_pos late
    · rw [show read (some d) q db = _ from if_neg late]
      exact (if_neg late).trans (answer_ignoresUsers h db users)

theorem makeWallet_ignoresUsers (user : String) : IgnoresUsers (makeWallet user) := by
  intro db users
  unfold makeWallet
  rw [Query.ignoresUsers_openSteps.createWallet db users]
  rcases createWallet user db with e | ⟨wallet, after⟩
  · cases e <;> rfl
  · rfl

theorem settle_withUsers (begun : Database) (refusal : Option EngineError)
    (users : Option (List UserRow)) (r : Except Failure α × Transaction) :
    settle (begun.withUsers users) refusal
        (r.1, { r.2 with database := r.2.database.withUsers users }) =
      ((settle begun refusal r).1, (settle begun refusal r).2.withUsers users) := by
  rcases r with ⟨e | a, t⟩
  · rfl
  · cases refusal <;> rfl

theorem Work.attempt_ignoresUsers {x : Work α} (h : x.IgnoresUsers) (course : Course) :
    Database.IgnoresUsers (x.attempt course) := by
  have steps := Query.ignoresUsers_openSteps
  have started : begin.IgnoresUsers := steps.bind steps.acquire fun _ => steps.lockForWriting
  intro db users
  unfold Work.attempt
  rw [started db users]
  rcases begin db with e | ⟨_, begun⟩
  · rfl
  · have run := h ⟨begun, course.cutoff⟩ users
    exact (congrArg (settle _ course.refusal) run).trans (settle_withUsers _ _ _ _)

/-! ## What sees users, but not their secrets -/

namespace Query

/-- Two queries come to the same, as far as a view of their answers goes, on databases that are
the same but for secrets, and leave such databases. -/
def Discreet (view : α → β) (q q' : Query α) : Prop :=
  ∀ db db', db.withoutSecrets = db'.withoutSecrets →
    match q db, q' db' with
    | .ok (a, after), .ok (a', after') =>
      view a = view a' ∧ after.withoutSecrets = after'.withoutSecrets
    | .error e, .error e' => e = e'
    | _, _ => False

theorem Discreet.bind {view : α → γ} {view' : β → δ} {q q' : Query α} {f f' : α → Query β}
    (hq : q.Discreet view q') (hf : ∀ a a', view a = view a' → (f a).Discreet view' (f' a')) :
    (q >>= f).Discreet view' (q' >>= f') := by
  intro db db' same
  have first := hq db db' same
  simp only [Bind.bind, StateT.bind, Except.bind]
  rcases ran : q db with e | ⟨a, after⟩ <;> rcases ran' : q' db' with e' | ⟨a', after'⟩ <;>
    rw [ran, ran'] at first
  · exact first
  · exact False.elim first
  · exact False.elim first
  · exact hf a a' first.1 after after' first.2

theorem Discreet.naming {view : α → β} {q q' : Query α} (h : q.Discreet view q') (value : String) :
    (naming value q).Discreet view (naming value q') := by
  intro db db' same
  have seen := h db db' same
  unfold Query.naming
  rcases ran : q db with e | ⟨a, after⟩ <;> rcases ran' : q' db' with e' | ⟨a', after'⟩ <;>
    rw [ran, ran'] at seen
  · obtain rfl : e = e' := seen
    cases e <;> rfl
  · exact False.elim seen
  · exact False.elim seen
  · exact seen

theorem discreet_pure {view : α → β} {a a' : α} (seen : view a = view a') :
    Discreet view (pure a) (pure a') :=
  fun _ _ same => ⟨seen, same⟩

theorem IgnoresUsers.discreet {q : Query α} (h : q.IgnoresUsers) : Discreet id q q := by
  intro db db' same
  obtain ⟨users, rfl, hidden⟩ := identities.change_eq_iff.mp same
  have own : q db = _ := h db db.tables.users
  have other : q (identities.put users db) = _ := h db users
  rw [other]
  rcases ran : q db with e | ⟨a, after⟩ <;> rw [ran] at own
  · rfl
  · -- what a query ignores it also leaves alone
    have kept : after = after.withUsers db.tables.users := congrArg Prod.snd (Except.ok.inj own)
    refine ⟨rfl, identities.change_eq_iff.mpr ⟨users, rfl, hidden.trans ?_⟩⟩
    rw [kept]
    rfl

theorem discreet_users : Discreet (List.map UserRow.withoutSecret) users users := by
  intro db db' same
  obtain ⟨rows, rfl, hidden⟩ := identities.change_eq_iff.mp same
  replace hidden : rows.map (List.map UserRow.withoutSecret) = db.tables.users.map _ := hidden
  have found : users db = rowsOf "users" db.tables.users db := rfl
  have found' : users (identities.put rows db) = rowsOf "users" rows (identities.put rows db) := rfl
  rw [found, found']
  rcases there : db.tables.users with _ | old <;> rcases rows with _ | new <;>
    rw [there] at hidden
  · rfl
  · cases hidden
  · cases hidden
  · exact ⟨(Option.some.inj hidden).symm, same⟩

theorem discreet_setUsers {rows rows' : List UserRow}
    (hidden : rows.map UserRow.withoutSecret = rows'.map UserRow.withoutSecret) :
    Discreet id (setUsers rows) (setUsers rows') := by
  intro db db' same
  obtain ⟨old, rfl, -⟩ := identities.change_eq_iff.mp same
  exact ⟨rfl, identities.change_eq_iff.mpr ⟨some rows', rfl, congrArg some hidden.symm⟩⟩

/-- A query that looks at wallets and users. -/
theorem discreet_joining {f : List Wallet → List UserRow → α} {view : α → β}
    (shown : ∀ rows users users', users.map UserRow.withoutSecret =
      users'.map UserRow.withoutSecret → view (f rows users) = view (f rows users')) :
    Discreet view (do acquire; let rows ← wallets; let users ← users; return f rows users)
      (do acquire; let rows ← wallets; let users ← users; return f rows users) := by
  refine ignoresUsers_openSteps.acquire.discreet.bind fun _ _ _ => ?_
  refine ignoresUsers_openSteps.wallets.discreet.bind fun rows _ same => ?_
  obtain rfl : rows = _ := same
  exact discreet_users.bind fun _ _ hidden => discreet_pure (shown _ _ _ hidden)

end Query

/-- What is seen of joined wallets does not depend on secrets. -/
theorem joined_withoutSecret {users users' : List UserRow}
    (hidden : users.map UserRow.withoutSecret = users'.map UserRow.withoutSecret) :
    Wallet.withoutSecret ∘ joined users = Wallet.withoutSecret ∘ joined users' := by
  have seen (users : List UserRow) (w : Wallet) :
      (joined users w).withoutSecret = joined (users.map UserRow.withoutSecret) w := by
    unfold joined Wallet.withoutSecret
    rw [List.find?_map, Option.map_map, Option.map_map]
    rfl
  funext w
  exact (seen users w).trans (hidden ▸ (seen users' w).symm)

theorem walletByUser_discreet (user : String) :
    (walletByUser user).Discreet (Option.map Wallet.withoutSecret) (walletByUser user) := by
  refine Query.discreet_joining fun rows users users' hidden => ?_
  rw [Option.map_map, Option.map_map, joined_withoutSecret hidden]

theorem listWallets_discreet :
    listWallets.Discreet (List.map Wallet.withoutSecret) listWallets := by
  refine Query.discreet_joining fun rows users users' hidden => ?_
  rw [oldestFirst_withoutSecret, oldestFirst_withoutSecret, List.map_map, List.map_map,
    joined_withoutSecret hidden]

/-- Users are inserted alike when only their hashes differ. -/
theorem insertUser_discreet {u u' : NewUser} (same : u.withoutSecret = u'.withoutSecret) :
    (insertUser u).Discreet User.withoutSecret (insertUser u') := by
  have steps := Query.ignoresUsers_openSteps
  obtain ⟨username, email, hash, roleId⟩ := u
  obtain ⟨_, _, hash', _⟩ := u'
  obtain ⟨rfl, rfl, -, rfl⟩ := NewUser.mk.inj same
  refine Query.Discreet.naming ?_ username
  refine steps.acquire.discreet.bind fun _ _ _ => ?_
  refine Query.discreet_users.bind fun rows rows' hidden => ?_
  -- who took an address or a name is no secret
  have taken (p : User → Bool) (blind : ∀ u : User, p u.withoutSecret = p u) :
      rows.any (p ·.user) = rows'.any (p ·.user) := by
    have seen (rows : List UserRow) : rows.any (p ·.user) =
        (rows.map UserRow.withoutSecret).any (p ·.user) := by
      rw [List.any_map]
      exact congrArg rows.any (funext fun r => (blind r.user).symm)
    rw [seen rows, hidden, seen rows']
  refine steps.lockForWriting.discreet.bind fun _ _ _ => ?_
  rw [taken (·.email == email) fun _ => rfl, taken (·.username == username) fun _ => rfl]
  refine (steps.passUnique _ _).discreet.bind fun _ _ _ => ?_
  refine (steps.passUnique _ _).discreet.bind fun _ _ _ => ?_
  refine steps.newId.discreet.bind fun id _ same => ?_
  obtain rfl : id = _ := same
  refine steps.readClock.discreet.bind fun now _ same => ?_
  obtain rfl : now = _ := same
  refine (Query.discreet_setUsers ?_).bind fun _ _ _ => Query.discreet_pure rfl
  rw [List.map_append, List.map_append, hidden]
  rfl

/-! ## Calls -/

theorem answer_discreet {view : α → β} {q q' : Query α} (h : q.Discreet view q') :
    Discreet withoutSecrets view (World.onStore _ (answer q)) (World.onStore _ (answer q')) := by
  intro w v shelves stores
  have seen := h w.store v.store stores
  unfold World.onStore answer
  rcases ran : q w.store with e | ⟨a, after⟩ <;> rcases ran' : q' v.store with e' | ⟨a', after'⟩ <;>
    rw [ran, ran'] at seen
  · obtain rfl : e = e' := seen
    exact ⟨rfl, shelves, stores⟩
  · exact False.elim seen
  · exact False.elim seen
  · exact ⟨congrArg Except.ok seen.1, shelves, seen.2⟩

theorem read_discreet {view : α → β} {q q' : Query α} (h : q.Discreet view q')
    (limit : Option Duration) :
    Discreet withoutSecrets view (World.onStore _ (read limit q))
      (World.onStore _ (read limit q')) := by
  rcases limit with _ | d
  · exact answer_discreet h
  · intro w v shelves stores
    have pools : w.store.withoutSecrets.pool = v.store.withoutSecrets.pool := by rw [stores]
    by_cases late : w.store.pool.isOpen && w.store.pool.isExhausted &&
        d.nanos < w.store.pool.patience.nanos
    · have stopped : read (some d) q w.store = _ := if_pos late
      have stopped' : read (some d) q' v.store = _ := if_pos (pools ▸ late)
      rw [World.onStore, World.onStore, stopped, stopped']
      exact ⟨rfl, shelves, stores⟩
    · have asked : read (some d) q w.store = _ := if_neg late
      have asked' : read (some d) q' v.store = _ := if_neg (pools ▸ late)
      rw [World.onStore, World.onStore, asked, asked']
      exact answer_discreet h w v shelves stores

theorem perform_discreet (course : Course) (limit : Option Duration) (call : StoreCall) :
    Discreet withoutSecrets Veil.secrets.reply
      (((storeOn course).map World.onStore).perform limit call)
      (((storeOn course).map World.onStore).perform limit call) := by
  have steps := Query.ignoresUsers_openSteps
  have units := Work.ignoresUsers_stepwise
  have told {α : Type} {x : Attempt (StateM Database) α} {f : α → Reply} (h : IgnoresUsers x) :
      Discreet withoutSecrets Veil.secrets.reply (f <$> World.onStore _ x)
        (f <$> World.onStore _ x) :=
    (h.onStore.alike id).map fun _ _ same => congrArg (fun a => Veil.secrets.reply (f a)) same
  cases call with
  | walletByUser user =>
    refine AlikeThrough.map (fun found found' seen => ?_)
      (read_discreet (walletByUser_discreet user) limit)
    have told (found : Option Wallet) : Veil.secrets.reply (.ofOption .wallet found) =
        .ofOption .wallet (found.map Wallet.withoutSecret) := by
      cases found <;> rfl
    rw [told, told, seen]
  | listWallets =>
    refine AlikeThrough.map (fun ws ws' seen => ?_) (read_discreet listWallets_discreet limit)
    exact congrArg Reply.wallets seen
  | createWallet user => exact told (makeWallet_ignoresUsers user)
  | insertProduct p => exact told (answer_ignoresUsers (steps.insertProduct p))
  | updateProduct id p => exact told (answer_ignoresUsers (steps.updateProduct p))
  | deleteProduct id => exact told (answer_ignoresUsers steps.deleteProduct)
  | deposit user amount => exact told (Work.attempt_ignoresUsers (units.deposit amount) course)
  | withdraw user amount => exact told (Work.attempt_ignoresUsers (units.withdraw amount) course)
  | purchase user id quantity =>
    have moves : (Work.purchase user id quantity).IgnoresUsers :=
      units.purchase (units.writeStock steps.setProducts) quantity
    exact told (Work.attempt_ignoresUsers moves course)
  | productById id => exact told (read_ignoresUsers steps.productById limit)
  | listProducts => exact told (read_ignoresUsers steps.listProducts limit)
  | history user => exact told (read_ignoresUsers steps.history limit)
  | listEntries => exact told (read_ignoresUsers steps.listEntries limit)

end Database

end WalletLedger
