import WalletLedger.Proofs.Database.Calls

/-!
# Rows that are inserted

What a database held before a wallet or a user was inserted, and what it holds
after it (`createWallet_ok`, `insertUser_ok`). Neither asks that the database
keeps books; one that does goes on keeping them when a user is registered
(`Keeps.register`).
-/

namespace WalletLedger.Database

open Memory Query

variable {db db' : Database}

/-- The wallet of a user was inserted, who had none. -/
def WalletInserted (db : Database) (owner : String) (wallet : Wallet) (db' : Database) : Prop :=
  ∃ rows, db.tables.wallets = some rows ∧ (∀ w ∈ rows, w.userId ≠ owner) ∧
    wallet.userId = owner ∧ db' = { db with
      tables := { db.tables with wallets := some (rows ++ [wallet]) }
      supply := db.supply.spend 1 1 }

theorem createWallet_ok {owner : String} {wallet : Wallet}
    (made : createWallet owner db = .ok (wallet, db')) : WalletInserted db owner wallet db' := by
  have met : (createWallet owner).Meets False db (WalletInserted db owner)
      fun _ => True := by
    refine meets_naming (meets_bind (meets_acquire False.elim (meets_bind ?_)))
    refine meets_of_wallets fun rows there => meets_bind (meets_lock False.elim ?_)
    refine meets_stamp (meets_bind (meets_passGuard False.elim ?_ ?_))
    · refine meets_bind (meets_passChecks False.elim ?_)
      refine meets_bind (meets_passUnique (fun _ => False.elim) fun vacant => ?_)
      refine meets_bind (meets_modify (meets_pure ⟨rows, there, ?_, rfl, rfl⟩))
      simpa using vacant
    · exact fun _ => meets_throw False.elim
  exact met.of_ok made

/-- A user was inserted, whose address and name nobody had, under the next identifier. -/
def UserInserted (db : Database) (u : NewUser) (user : User) (db' : Database) : Prop :=
  ∃ rows, db.tables.users = some rows ∧ (∀ r ∈ rows, r.user.email ≠ u.email) ∧
    (∀ r ∈ rows, r.user.username ≠ u.username) ∧ user.email = u.email ∧
    user.username = u.username ∧ user.id = db.supply.next.id ∧ db' = { db with
      tables := { db.tables with users := some (rows ++ [⟨user, false⟩]) }
      supply := db.supply.spend 1 1 }

theorem insertUser_ok {u : NewUser} {user : User} (made : insertUser u db = .ok (user, db')) :
    UserInserted db u user db' := by
  have met : (insertUser u).Meets False db (UserInserted db u)
      fun _ => True := by
    refine meets_naming (meets_bind (meets_acquire False.elim (meets_bind ?_)))
    refine meets_of_users fun rows there => meets_bind (meets_lock False.elim ?_)
    refine meets_bind (meets_passUnique (fun _ => False.elim) fun newEmail => ?_)
    refine meets_bind (meets_passUnique (fun _ => False.elim) fun newName => ?_)
    refine meets_stamp (meets_bind (meets_modify (meets_pure ?_)))
    refine ⟨rows, there, ?_, ?_, rfl, rfl, rfl, rfl⟩
    · simpa using newEmail
    · simpa using newName
  exact met.of_ok made

/-- A database that keeps books keeps them, but for identity records, when a user
is registered or refused. -/
theorem Keeps.register {b : Books} (keeps : Keeps db b) (u : NewUser) :
    Keeps ((insertUser u).attempt db).2 b ∨
      ∃ users, Keeps ((insertUser u).attempt db).2 { b.spend 1 1 with users } := by
  unfold Query.attempt
  rcases run : insertUser u db with e | ⟨user, db'⟩
  · exact .inl keeps
  · obtain ⟨rows, -, -, -, -, -, -, rfl⟩ := insertUser_ok run
    refine .inr ⟨_, ?_, ⟨_, rfl, sameUsers_live _⟩, keeps.wallets, keeps.products, keeps.entries⟩
    exact congrArg (fun s : Supply => s.spend 1 1) keeps.supply

end WalletLedger.Database
