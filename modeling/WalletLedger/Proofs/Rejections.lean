import WalletLedger.Proofs.Database.Insertions
import WalletLedger.Proofs.Wallets

/-!
# Rejected requests for wallets

A request for a wallet makes a row and then looks it up again, and the second
lookup may fail, be late or miss the row. A rejected request `Strands` a row
then: the row stays, although its request was answered by an error. No other
request that is rejected leaves a row behind
(`rejected_request_writes_nothing_unless_it_strands`). Rows are stranded in both
stores, and the same request made again meets the row that it made before
(`repeated_request_meets_stranded_wallet`).
-/

namespace WalletLedger

open Memory Database Routine

/-! ## How attempts end -/

namespace Attempt

variable {W α β : Type} {w w' : W} {r : Except Failure β}

theorem ends_bind {x : Attempt (Routine W) α} {f : α → Attempt (Routine W) β} :
    Ends (x >>= f : Attempt (Routine W) β) w r w' ↔
      (∃ e, Ends x w (.error e) w' ∧ r = .error e) ∨
        ∃ a w₁, Ends x w (.ok a) w₁ ∧ Ends (f a) w₁ r w' := by
  refine ⟨fun h => ?_, ?_⟩
  · obtain ⟨e | a, w₁, first, second⟩ := Ends.of_bind h
    · cases second
      exact .inl ⟨e, first, rfl⟩
    · exact .inr ⟨a, w₁, first, second⟩
  · rintro (⟨e, first, rfl⟩ | ⟨a, w₁, first, second⟩)
    · exact Ends.bind first .done
    · exact Ends.bind first second

theorem ends_throw {e : Failure} :
    Ends (throw e : Attempt (Routine W) β) w r w' ↔ r = .error e ∧ w' = w := by
  refine ⟨fun h => ?_, ?_⟩
  · cases h
    exact ⟨rfl, rfl⟩
  · rintro ⟨rfl, rfl⟩
    exact .done

/-- What cannot be refused goes on. -/
theorem ends_lift_bind {x : Routine W α} {f : α → Attempt (Routine W) β}
    (h : Ends (liftM x >>= f : Attempt (Routine W) β) w r w') :
    ∃ a w₁, x.Ends w a w₁ ∧ Ends (f a) w₁ r w' := by
  obtain ⟨e | a, w₁, first, second⟩ := Ends.of_bind h
  · obtain ⟨a, w₂, -, done⟩ := Ends.of_bind first
    cases done
  · obtain ⟨a', w₂, first, done⟩ := Ends.of_bind first
    cases done
    exact ⟨a, w₁, first, second⟩

theorem ends_map {x : Attempt (Routine W) α} {r : Except Failure α} (f : α → β)
    (h : Ends x w r w') : Ends (f <$> x : Attempt (Routine W) β) w (r.map f) w' := by
  refine Ends.bind h ?_
  rcases r with e | a <;> exact .done

end Attempt

/-! ## Stores whose lookups may fail -/

section Requests

variable {S : Type} {rows : S → List Wallet} {w w' : World S} {user : String} {e : Failure}

/-- A store holds rows of wallets. Its lookups answer or fail as they like, but they
leave the rows alone. Making a wallet adds one row, which is the answer, or fails and adds none. -/
structure Store.KeepsRows (store : Store (Routine (World S))) (rows : S → List Wallet) : Prop where
  looked : ∀ {limit : Option Duration} {user : String} {w w' : World S}
    {r : Except Failure (Option Wallet)},
    Ends (store.walletByUser limit user) w r w' → rows w'.store = rows w.store
  failed : ∀ {user : String} {w w' : World S} {e : Failure},
    Ends (store.createWallet user) w (.error e) w' → rows w'.store = rows w.store
  made : ∀ {user : String} {w w' : World S} {wallet : Wallet},
    Ends (store.createWallet user) w (.ok wallet) w' →
    wallet.userId = user ∧ rows w'.store = rows w.store ++ [wallet]

/-- The error of a wallet that is not found after it was made. -/
def missingWallet (user : String) : Failure :=
  .refused (.storage ("wallet for " ++ user ++ " missing right after creation"))

/-- A request of a named user finds no wallet and makes one, and then the lookup of
this wallet fails or misses it. -/
def Services.Strands (s : Services (Routine (World S))) (user : String) (w : World S)
    (e : Failure) (w' : World S) : Prop :=
  Validation.userId user = .ok () ∧ ∃ w₁ wallet w₂,
    Ends (s.store.walletByUser (some s.limit) user) w (.ok none) w₁ ∧
    Ends (s.store.createWallet user) w₁ (.ok wallet) w₂ ∧
    (Ends (s.store.walletByUser (some s.limit) user) w₂ (.error e) w' ∨
      Ends (s.store.walletByUser (some s.limit) user) w₂ (.ok none) w' ∧ e = missingWallet user)

variable {s : Services (Routine (World S))}

/-- A wallet that was read back is handed out. -/
theorem forgetting_answers {wallet : Wallet} {r : Except Failure (Outcome Wallet)}
    (h : Ends (s.forgetting wallet) w r w') : r = .ok (.created wallet) := by
  obtain ⟨_, _, -, done⟩ := Attempt.ends_lift_bind h
  cases done
  rfl

/-- A wallet that was made is read back, unless that fails or misses it. -/
theorem rereading_rejected : Ends (s.rereading user) w (.error e) w' ↔
    Ends (s.store.walletByUser (some s.limit) user) w (.error e) w' ∨
      Ends (s.store.walletByUser (some s.limit) user) w (.ok none) w' ∧ e = missingWallet user := by
  unfold Services.rereading
  rw [Attempt.ends_bind]
  refine ⟨?_, ?_⟩
  · rintro (⟨_, failed, ⟨⟩⟩ | ⟨_ | found, w₁, looked, rest⟩)
    · exact .inl failed
    · obtain ⟨⟨⟩, rfl⟩ := Attempt.ends_throw.mp rest
      exact .inr ⟨looked, rfl⟩
    · cases forgetting_answers rest
  · rintro (failed | ⟨missed, rfl⟩)
    · exact .inl ⟨e, failed, rfl⟩
    · exact .inr ⟨none, w', missed, Attempt.ends_throw.mpr ⟨rfl, rfl⟩⟩

/-- A request that strands a row is rejected. -/
theorem Services.Strands.rejected (h : s.Strands user w e w') :
    Ends (s.initWallet user) w (.error e) w' := by
  obtain ⟨named, w₁, wallet, w₂, missed, made, lost⟩ := h
  rw [Services.initWallet_eq s named]
  refine Attempt.ends_bind.mpr (.inr ⟨none, w₁, missed, ?_⟩)
  refine Attempt.ends_bind.mpr (.inr ⟨wallet, w₂, made, ?_⟩)
  exact rereading_rejected.mpr lost

theorem Services.Strands.rows_eq (keeps : s.store.KeepsRows rows) (h : s.Strands user w e w') :
    ∃ wallet, wallet.userId = user ∧ rows w'.store = rows w.store ++ [wallet] := by
  obtain ⟨-, w₁, wallet, w₂, missed, made, lost⟩ := h
  obtain ⟨own, added⟩ := keeps.made made
  have kept : rows w'.store = rows w₂.store := by
    rcases lost with failed | ⟨missed, -⟩
    · exact keeps.looked failed
    · exact keeps.looked missed
  exact ⟨wallet, own, by rw [kept, added, keeps.looked missed]⟩

/-- A rejected request strands a row, or it leaves the rows as they were. -/
theorem strands_or_rows_eq (keeps : s.store.KeepsRows rows)
    (rejected : Ends (s.initWallet user) w (.error e) w') :
    s.Strands user w e w' ∨ rows w'.store = rows w.store := by
  rcases named : Validation.userId user with broken | _
  · rw [Services.initWallet_unnamed s named] at rejected
    exact .inr (by rw [(Attempt.ends_throw.mp rejected).2])
  rw [Services.initWallet_eq s named] at rejected
  rcases Attempt.ends_bind.mp rejected with ⟨_, failed, -⟩ | ⟨_ | existing, w₁, looked, rest⟩
  · exact .inr (keeps.looked failed)
  · -- the rows change at the second call only, and what follows it does not take the row back
    rcases Attempt.ends_bind.mp rest with ⟨_, failed, -⟩ | ⟨wallet, w₂, made, rest⟩
    · exact .inr ((keeps.failed failed).trans (keeps.looked looked))
    · exact .inl ⟨named, w₁, wallet, w₂, looked, made, rereading_rejected.mp rest⟩
  · obtain ⟨-, rfl⟩ := Attempt.ends_throw.mp rest
    exact .inr (keeps.looked looked)

end Requests

/-! ## Either store, with any lookup -/

/-- A memory store whose lookup of wallets is replaced by one that leaves the rows alone. -/
theorem Memory.keepsRows {pace : Pace}
    {lookup : Option Duration → String → Attempt (Routine (World Memory)) (Option Wallet)}
    (looked : ∀ {limit user w r w'}, Ends (lookup limit user) w r w' →
      w'.store.books.wallets = w.store.books.wallets) :
    Store.KeepsRows { pacedStore pace with walletByUser := lookup } (·.books.wallets) := by
  have made {user : String} {w w' : World Memory} {r : Except Failure Wallet}
      (h : Ends ((pacedStore pace).createWallet user) w r w') :
      Ending (w.store.books.respond Memory.manner (.createWallet user)) w (r.map .wallet) w' := by
    have ended : ((pacedStore pace).perform none (.createWallet user)).Ends w (r.map .wallet) w' :=
      Attempt.ends_map _ h
    exact perform_ends ended
  refine ⟨looked, fun h => ?_, fun h => ?_⟩
  · cases made h <;> rfl
  · cases made h with
    | answered result =>
      rw [Books.respond] at result
      split at result
      · cases result
      · cases result
        exact ⟨rfl, rfl⟩

/-- A database whose lookup of wallets is replaced by one that leaves the rows alone. -/
theorem Database.keepsRows {course : Course}
    {lookup : Option Duration → String → Attempt (Routine (World Database)) (Option Wallet)}
    (looked : ∀ {limit user w r w'}, Ends (lookup limit user) w r w' →
      w'.store.tables.wallets = w.store.tables.wallets) :
    Store.KeepsRows { ((storeOn course).map World.onStore).map ofState with walletByUser := lookup }
      (·.tables.wallets.getD []) := by
  have made {user : String} {w w' : World Database} {r : Except Failure Wallet}
      (h : Ends (ofState _ (World.onStore _ (makeWallet user))) w r w') :
      makeWallet user w.store = (r, w'.store) := by
    cases h with
    | now rest =>
      cases rest
      rfl
  refine ⟨fun h => congrArg (Option.getD · []) (looked h), fun h => ?_, fun h => ?_⟩
  · rw [makeWallet_atomic _ _ _ _ (made h)]
  · have run := made h
    unfold makeWallet at run
    split at run
    · next wallet db inserted =>
      cases run
      obtain ⟨rows, there, -, own, after⟩ := createWallet_ok inserted
      exact ⟨own, by rw [after, there]; rfl⟩
    · cases run
    · cases run

/-! ## What rejected requests leave behind -/

/-- Whatever the lookups of a store do, a request for a wallet that is rejected leaves
the rows of wallets as they were, unless it strands one: it made a wallet and then did not
read it back. Such a request is rejected too, and the row of its user stays. -/
theorem rejected_request_writes_nothing_unless_it_strands {S : Type} {rows : S → List Wallet}
    {s : Services (Routine (World S))} (keeps : s.store.KeepsRows rows) (user : String)
    (w w' : World S) (e : Failure) :
    (Ends (s.initWallet user) w (.error e) w' → ¬ s.Strands user w e w' →
      rows w'.store = rows w.store) ∧
    (s.Strands user w e w' → Ends (s.initWallet user) w (.error e) w' ∧
      ∃ wallet, wallet.userId = user ∧ rows w'.store = rows w.store ++ [wallet]) :=
  ⟨fun rejected unstranded => (strands_or_rows_eq keeps rejected).resolve_left unstranded,
    fun strands => ⟨strands.rejected, strands.rows_eq keeps⟩⟩

/-- Services whose lookups find no wallet. -/
def Services.blind {m : Type → Type} [Monad m] (s : Services m) : Services m :=
  { s with store := s.store.blind }

/-- Either store without rows, when no lookup finds a wallet. -/
theorem blind_request_strands :
    (∃ w' wallet, wallet.userId = "u" ∧
      Ends ((Memory.services .unlimited .absent ⟨0⟩).blind.initWallet "u") ⟨.empty, .empty⟩
        (.error (missingWallet "u")) w' ∧ w'.store.books.wallets = [wallet]) ∧
    ∃ w' wallet, wallet.userId = "u" ∧
      Ends ((Database.services .smooth .absent ⟨0⟩).blind.initWallet "u")
        ⟨.opening [] .start [] true ⟨4, ⟨0⟩, true, false⟩, .empty⟩
        (.error (missingWallet "u")) w' ∧ w'.store.tables.wallets.getD [] = [wallet] := by
  have memory : (Memory.services .unlimited .absent ⟨0⟩).blind.store.KeepsRows (·.books.wallets) :=
    Memory.keepsRows fun h => by cases h; rfl
  have database : (Database.services .smooth .absent ⟨0⟩).blind.store.KeepsRows
      (·.tables.wallets.getD []) :=
    Database.keepsRows fun h => by cases h; rfl
  have inMemory : (Memory.services .unlimited .absent ⟨0⟩).blind.Strands "u" ⟨.empty, .empty⟩
      (missingWallet "u") _ :=
    ⟨rfl, _, _, _, .done, .served .done, .inr ⟨.done, rfl⟩⟩
  have inDatabase : (Database.services .smooth .absent ⟨0⟩).blind.Strands "u"
      ⟨.opening [] .start [] true ⟨4, ⟨0⟩, true, false⟩, .empty⟩ (missingWallet "u") _ :=
    ⟨rfl, _, Books.empty.newWallet "u", _, .done, .now .done, .inr ⟨.done, rfl⟩⟩
  obtain ⟨rejected, wallet, own, rows⟩ :=
    (rejected_request_writes_nothing_unless_it_strands memory "u" _ _ _).2 inMemory
  obtain ⟨rejected', wallet', own', rows'⟩ :=
    (rejected_request_writes_nothing_unless_it_strands database "u" _ _ _).2 inDatabase
  exact ⟨⟨_, wallet, own, rejected, rows⟩, _, wallet', own', rejected', rows'⟩

/-- A request that does not read its wallet back, because lookups miss it or because the
deadline passes, leaves the row, and the same request meets it. The latter error even asks
for a retry. -/
theorem repeated_request_meets_stranded_wallet :
    (∃ w' wallet,
      ((Memory.services .unlimited .absent ⟨0⟩).blind.initWallet "u").alone ⟨.empty, .empty⟩ =
        (.error (missingWallet "u"), w') ∧
      w'.store.books.wallets = [wallet] ∧
      ((Memory.services .unlimited .absent ⟨0⟩).blind.initWallet "u").alone w' =
        (.error (.refused (.duplicateWallet "u")), w')) ∧
    ∃ w' wallet, LedgerError.isRetryable (.deadlineExceeded 5) ∧
      Ends ((Memory.services .unlimited .absent (.ofMillis 5)).initWallet "u") ⟨.empty, .empty⟩
        (.error (.refused (.deadlineExceeded 5))) w' ∧
      w'.store.books.wallets = [wallet] ∧
      ((Memory.services .unlimited .absent (.ofMillis 5)).initWallet "u").alone w' =
        (.error (.refused (.walletAlreadyExists wallet)), w') := by
  have strands : (Memory.services .unlimited .absent (.ofMillis 5)).Strands "u" ⟨.empty, .empty⟩
      (.refused (.deadlineExceeded 5)) _ :=
    ⟨rfl, _, _, _, .served .done, .served .done, .inl (.waited rfl .done)⟩
  exact ⟨⟨_, _, rfl, rfl, rfl⟩, _, _, rfl, strands.rejected, rfl, rfl⟩

end WalletLedger
