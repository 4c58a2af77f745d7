import WalletLedger.Outcome
import WalletLedger.Proofs.Books.Step
import WalletLedger.Proofs.Interleaving
import WalletLedger.Service.Wallets
import WalletLedger.World

/-!
# Making wallets at once

Making a wallet looks for one, makes it and reads it back, and anything may
happen in between. A request for a wallet is at one of a few stages (`Standing`); what is
true at each depends on the row of the user only, and stays true when rows are
added. Of the requests of a user who had no wallet one at most is its `maker`
(`Agreed`). Every step keeps this (`Agreed.step`), so it holds at the end, when
every user has one row, made by one of the requests (`Agreed.settled`).
-/

namespace WalletLedger

open Memory Routine

/-! ## Rows of users -/

namespace Memory.Books

variable {b b' : Books} {user : String}

/-- The identifier of a user's wallet. -/
def walletId? (b : Books) (user : String) : Option String :=
  (b.wallet? user).map (·.id)

theorem walletId?_of_rows
    (same : b'.wallets.map (fun w => (w.userId, w.id)) = b.wallets.map fun w => (w.userId, w.id))
    (user : String) : b'.walletId? user = b.walletId? user := by
  have eq (c : Books) : c.walletId? user =
      ((c.wallets.map fun w => (w.userId, w.id)).find? (·.1 == user)).map (·.2) := by
    rw [List.find?_map, Option.map_map]
    rfl
  rw [eq, eq, same]

theorem walletId?_eq_some {w : Wallet} (found : b.wallet? user = some w) :
    b.walletId? user = some w.id :=
  congrArg (Option.map fun v : Wallet => v.id) found

theorem walletId?_post (owner walletId : String) (balance : Money) (kind : EntryKind)
    (look : Nat) : (b.post owner walletId balance kind look).walletId? user = b.walletId? user := by
  have rows : ((b.spend 1 (look + 1)).setBalance owner balance b.next.time).wallets.map
      (fun w => (w.userId, w.id)) = b.wallets.map fun w => (w.userId, w.id) :=
    map_setWallet fun _ => rfl
  exact walletId?_of_rows rows user

theorem walletId?_addWallet (vacant : b.wallet? user = none) (other : String) :
    ((b.spend 1 1).addWallet (b.newWallet user)).walletId? other =
      if other = user then some (b.newWallet user).id else b.walletId? other := by
  unfold walletId? wallet? addWallet spend
  rw [List.find?_append]
  by_cases same : other = user
  · subst same
    have none_found : b.wallets.find? (·.userId == other) = none := vacant
    simp [none_found, newWallet]
  · simp [same, newWallet, Ne.symm same]

/-- The holder of a row is found. -/
theorem WellFormed.wallet?_eq (h : b.WellFormed) {w : Wallet} (mem : w ∈ b.wallets)
    (own : w.userId = user) : b.wallet? user = some w := by
  rcases found : b.wallet? user with _ | v
  · exact absurd own (wallet?_eq_none.mp found w mem)
  · obtain ⟨mem', own'⟩ := wallet?_eq_some found
    rw [h.owner_unique mem' mem (own'.trans own.symm)]

/-- The row of a user is the only one. -/
theorem WellFormed.filter_owner (h : b.WellFormed) {w : Wallet} (holder : b.wallet? user = some w) :
    (b.wallets.filter fun v => v.userId = user) = [w] := by
  have head : (b.wallets.filter fun v => v.userId = user).head? = some w :=
    List.head?_filter.trans holder
  obtain ⟨rest, eq⟩ := List.head?_eq_some_iff.mp head
  have rows : ((w :: rest).map (·.userId)).Nodup :=
    eq ▸ h.owners.sublist (List.filter_sublist.map _)
  rw [List.map_cons, List.nodup_cons] at rows
  have alone (v : Wallet) : v ∉ rest := by
    intro hv
    have chosen : v ∈ b.wallets.filter fun v => v.userId = user := eq ▸ List.mem_cons_of_mem w hv
    have own : v.userId = w.userId := by
      rw [(wallet?_eq_some holder).2]
      simpa using (List.mem_filter.mp chosen).2
    exact rows.1 (own ▸ List.mem_map_of_mem hv)
  rw [eq, List.eq_nil_iff_forall_not_mem.mpr alone]

/-- Nothing but making a wallet changes whose wallets are there. -/
theorem Step.walletId?_eq {call : StoreCall} {reply : Reply} (step : Step b call reply b')
    (other : ∀ user, call ≠ .createWallet user) (user : String) :
    b'.walletId? user = b.walletId? user := by
  cases step with
  | createWallet => exact absurd rfl (other _)
  | @deposit owner amount balance w => exact walletId?_post owner w.id balance (.deposit amount) 1
  | @withdraw owner amount balance w => exact walletId?_post owner w.id balance (.withdraw amount) 1
  | @purchase owner id quantity _ total balance w =>
    exact walletId?_post owner w.id balance (.purchase id quantity total) _
  | _ => rfl

end Memory.Books

/-! ## Stages of a request -/

section Stages

variable {S : Type} (s : Services (Routine (World S)))

/-- What is left of a request after the wallet of its user was read back. -/
def Services.forgetting (wallet : Wallet) : Attempt (Routine (World S)) (Outcome Wallet) := do
  s.forget [Cache.walletsKey]
  return .created wallet

/-- What is left of it after the wallet was made. -/
def Services.rereading (user : String) : Attempt (Routine (World S)) (Outcome Wallet) := do
  let found ← s.store.walletByUser (some s.limit) user
  let missing := .storage ("wallet for " ++ user ++ " missing right after creation")
  let wallet ← Services.orRefuse missing found
  s.forgetting wallet

/-- What is left of it after its user was found to have no wallet. -/
def Services.creating (user : String) : Attempt (Routine (World S)) (Outcome Wallet) := do
  let _ ← s.store.createWallet user
  s.rereading user

/-- A request for the wallet of a user who is named looks for the wallet first. -/
theorem Services.initWallet_eq {user : String} (named : Validation.userId user = .ok ()) :
    s.initWallet user = s.store.walletByUser (some s.limit) user >>= fun
      | some existing => throw (.refused (.walletAlreadyExists existing))
      | none => s.creating user := by
  show Services.check (Validation.userId user) >>= _ = _
  rw [named]
  rfl

/-- A request for the wallet of nobody is refused at once. -/
theorem Services.initWallet_unnamed {user : String} {e : FieldError}
    (unnamed : Validation.userId user = .error e) :
    s.initWallet user = throw (.refused (.validation e)) := by
  show Services.check (Validation.userId user) >>= _ = _
  rw [unnamed]
  rfl

/-- Where a request for the wallet of a user stands: whether the user had none
at first, the row of the user now, and whether the request is its maker. -/
inductive Standing (vacant : Prop) (row : Option String) (user : String) :
    Bool → Routine (World S) (Except Failure (Outcome Wallet)) → Prop
  | looking : Standing vacant row user false (s.initWallet user)
  | creating (fresh : vacant) : Standing vacant row user false (s.creating user)
  | rereading (fresh : vacant) {id : String} (made : row = some id) :
    Standing vacant row user true (s.rereading user)
  | forgetting (fresh : vacant) {w : Wallet} (made : row = some w.id) :
    Standing vacant row user true (s.forgetting w)
  | made (fresh : vacant) {w : Wallet} (made : row = some w.id) :
    Standing vacant row user true (.done (.ok (.created w)))
  | duplicate {id : String} (taken : row = some id) :
    Standing vacant row user false (.done (.error (.refused (.duplicateWallet user))))
  | existing {w : Wallet} (taken : row = some w.id) :
    Standing vacant row user false (.done (.error (.refused (.walletAlreadyExists w))))

/-- A store and a cache that take every call as one step: reads are answered,
and a wallet is made unless there is one. -/
structure Obliging (holds : S → Books → Prop) : Prop where
  look : ∀ user, ∃ act, IsStep (s.store.walletByUser (some s.limit) user) act ∧
    ∀ w b, holds w.store b →
      (act w).1 = .ok ((b.wallet? user).map b.joined) ∧ holds (act w).2.store b
  make : ∀ user, ∃ act, IsStep (s.store.createWallet user) act ∧ ∀ w b, holds w.store b →
    match b.wallet? user with
    | some _ => (act w).1 = .error (.refused (.duplicateWallet user)) ∧ holds (act w).2.store b
    | none => (∃ made, (act w).1 = .ok made) ∧
        holds (act w).2.store ((b.spend 1 1).addWallet (b.newWallet user))
  forget : ∃ act, IsStep (s.forget [Cache.walletsKey]) act ∧ ∀ w, (act w).2.store = w.store

variable {s} {vacant : Prop} {row row' : Option String} {user : String} {maker : Bool}
  {r r' : Routine (World S) (Except Failure (Outcome Wallet))} {w w' : World S} {b : Books}
  {holds : S → Books → Prop}

/-- A stage lasts while the row of the user does. -/
theorem Standing.mono (h : Standing s vacant row user maker r)
    (kept : ∀ id, row = some id → row' = some id) : Standing s vacant row' user maker r := by
  cases h with
  | looking => exact .looking
  | creating fresh => exact .creating fresh
  | rereading fresh made => exact .rereading fresh (kept _ made)
  | forgetting fresh made => exact .forgetting fresh (kept _ made)
  | made fresh made => exact .made fresh (kept _ made)
  | duplicate taken => exact .duplicate (kept _ taken)
  | existing taken => exact .existing (kept _ taken)

/-- A maker has made the row. -/
theorem Standing.row_of_maker (h : Standing s vacant row user true r) :
    vacant ∧ ∃ id, row = some id := by
  cases h with
  | rereading fresh made => exact ⟨fresh, _, made⟩
  | forgetting fresh made => exact ⟨fresh, _, made⟩
  | made fresh made => exact ⟨fresh, _, made⟩

/-- A step of a request either leaves the rows alone, or makes the row of its user. -/
theorem Standing.step (obliging : Obliging s holds) (named : Validation.userId user = .ok ())
    (held : holds w.store b) (kept : ¬ vacant → ∃ id, b.walletId? user = some id)
    (h : Standing s vacant (b.walletId? user) user maker r) (taken : r.step? w = some (r', w')) :
    (holds w'.store b ∧ Standing s vacant (b.walletId? user) user maker r') ∨
      b.wallet? user = none ∧ holds w'.store ((b.spend 1 1).addWallet (b.newWallet user)) ∧
        ∀ id, Standing s vacant (some id) user true r' := by
  cases h with
  | looking =>
    obtain ⟨act, isStep, looked⟩ := obliging.look user
    obtain ⟨answered, held⟩ := looked w b held
    rw [Services.initWallet_eq s named, isStep.attempt_bind, answered] at taken
    rcases found : b.wallet? user with _ | v <;> rw [found] at taken <;> cases taken
    · have fresh : vacant := by
        by_contra old
        obtain ⟨id, there⟩ := kept old
        simp [Books.walletId?, found] at there
      exact .inl ⟨held, .creating fresh⟩
    · have there := Books.walletId?_eq_some found
      exact .inl ⟨held, .existing there⟩
  | creating fresh =>
    obtain ⟨act, isStep, made⟩ := obliging.make user
    have made := made w b held
    rw [Services.creating, isStep.attempt_bind] at taken
    rcases found : b.wallet? user with _ | v <;> rw [found] at made
    · obtain ⟨⟨wallet, answered⟩, held⟩ := made
      rw [answered] at taken
      cases taken
      exact .inr ⟨rfl, held, fun _ => .rereading fresh rfl⟩
    · rw [made.1] at taken
      cases taken
      exact .inl ⟨made.2, .duplicate (Books.walletId?_eq_some found)⟩
  | rereading fresh made =>
    obtain ⟨act, isStep, looked⟩ := obliging.look user
    obtain ⟨answered, held⟩ := looked w b held
    obtain ⟨v, found, rfl⟩ := Option.map_eq_some_iff.mp made
    rw [Services.rereading, isStep.attempt_bind, answered, found] at taken
    cases taken
    have there := Books.walletId?_eq_some found
    exact .inl ⟨held, .forgetting fresh there⟩
  | forgetting fresh made =>
    obtain ⟨act, isStep, same⟩ := obliging.forget
    rw [Services.forgetting, isStep.lift_bind] at taken
    cases taken
    rw [same]
    exact .inl ⟨held, .made fresh made⟩
  | made => cases taken
  | duplicate => cases taken
  | existing => cases taken

/-- An answer that made the wallet of an identifier. -/
def IsMade (id : String) : Except Failure (Outcome Wallet) → Prop
  | .ok outcome => outcome.status = .created ∧ outcome.data.id = id
  | .error _ => False

/-- An answer that refuses a user a second wallet, beside the one of an identifier. -/
def IsTaken (user id : String) : Except Failure (Outcome Wallet) → Prop
  | .error (.refused e) => Status.ofError e = .conflict ∧
    (e = .duplicateWallet user ∨ ∃ existing, e = .walletAlreadyExists existing ∧ existing.id = id)
  | _ => False

/-- A maker that is done has made the row, and others were refused because of it. -/
theorem Standing.answered (obliging : Obliging s holds) (named : Validation.userId user = .ok ())
    (w : World S) {a : Except Failure (Outcome Wallet)}
    (h : Standing s vacant row user maker (.done a)) :
    ∃ id, row = some id ∧ if maker then vacant ∧ IsMade id a else IsTaken user id a := by
  -- a request that has a step left is not done
  have unfinished {r : Routine (World S) (Except Failure (Outcome Wallet))}
      {next : Routine (World S) (Except Failure (Outcome Wallet)) × World S}
      (steps : r.step? w = some next) : r ≠ .done a := by
    rintro rfl
    cases steps
  generalize done : Routine.done a = r at h
  cases h with
  | looking =>
    obtain ⟨act, isStep, -⟩ := obliging.look user
    rw [Services.initWallet_eq s named] at done
    exact absurd done.symm (unfinished (isStep.attempt_bind _ w))
  | creating =>
    obtain ⟨act, isStep, -⟩ := obliging.make user
    exact absurd done.symm (unfinished (isStep.attempt_bind _ w))
  | rereading =>
    obtain ⟨act, isStep, -⟩ := obliging.look user
    exact absurd done.symm (unfinished (isStep.attempt_bind _ w))
  | forgetting =>
    obtain ⟨act, isStep, -⟩ := obliging.forget
    exact absurd done.symm (unfinished (isStep.lift_bind _ w))
  | made fresh made =>
    cases done
    exact ⟨_, made, fresh, rfl, rfl⟩
  | duplicate taken =>
    cases done
    exact ⟨_, taken, rfl, .inl rfl⟩
  | existing taken =>
    cases done
    exact ⟨_, taken, rfl, .inr ⟨_, rfl, rfl⟩⟩

end Stages

/-! ## All requests together -/

section Agreement

variable {S : Type} {s : Services (Routine (World S))} {holds : S → Books → Prop}
  {before b b' : Books} {users : List String} {maker : String → Option Nat}
  {rs : List (Routine (World S) (Except Failure (Outcome Wallet)))}
  {r r' : Routine (World S) (Except Failure (Outcome Wallet))} {w w' : World S} {i : Nat}

variable (s before b users maker rs) in
/-- The requests of some users on books that had some rows before: a row that
was there is kept, a row that was not has a maker, and every request is at a stage. -/
structure Agreed : Prop where
  length : rs.length = users.length
  kept : ∀ user id, before.walletId? user = some id → b.walletId? user = some id
  made : ∀ user id, before.walletId? user = none → b.walletId? user = some id →
    ∃ i : Nat, maker user = some i ∧ users[i]? = some user
  staged : ∀ (i : Nat) user r, users[i]? = some user → rs[i]? = some r →
    Standing s (before.walletId? user = none) (b.walletId? user) user
      (decide (maker user = some i)) r

theorem Agreed.start : Agreed s b b users (fun _ => none) (users.map s.initWallet) where
  length := List.length_map ..
  kept _ _ there := there
  made user id none_before there := by simp [none_before] at there
  staged i user r named here := by
    rw [List.getElem?_map, named] at here
    cases here
    exact .looking

/-- Requests do not mind what leaves the rows of users alone. -/
theorem Agreed.other (agreed : Agreed s before b users maker rs)
    (same : ∀ user, b'.walletId? user = b.walletId? user) :
    Agreed s before b' users maker rs where
  length := agreed.length
  kept user id there := (same user).trans (agreed.kept user id there)
  made user id none_before there := agreed.made user id none_before ((same user).symm.trans there)
  staged i user r named here := same user ▸ agreed.staged i user r named here

/-- A request that leaves the rows alone has only moved on itself. -/
theorem Agreed.advance (agreed : Agreed s before b users maker rs) {user : String}
    (named : users[i]? = some user)
    (stage : Standing s (before.walletId? user = none) (b.walletId? user) user
      (decide (maker user = some i)) r') : Agreed s before b users maker (rs.set i r') where
  length := (List.length_set ..).trans agreed.length
  kept := agreed.kept
  made := agreed.made
  staged j other r named' here := by
    rw [List.getElem?_set] at here
    split at here
    · next same =>
      subst same
      obtain rfl : user = other := Option.some.inj (named.symm.trans named')
      split at here <;> cases here
      exact stage
    · exact agreed.staged j other r named' here

/-- A request that makes the row of its user becomes its maker: nobody was before. -/
theorem Agreed.make (agreed : Agreed s before b users maker rs) {user : String}
    (named : users[i]? = some user) (vacant : b.wallet? user = none)
    (stage : Standing s (before.walletId? user = none) (some (b.newWallet user).id) user true r') :
    Agreed s before ((b.spend 1 1).addWallet (b.newWallet user)) users
      (Function.update maker user (some i)) (rs.set i r') := by
  have nobody : b.walletId? user = none := by simp [Books.walletId?, vacant]
  have row (other : String) := Books.walletId?_addWallet vacant other
  refine ⟨(List.length_set ..).trans agreed.length, fun other id there => ?_,
    fun other id none_before there => ?_, fun j other r named' here => ?_⟩
  · rw [row, if_neg]
    · exact agreed.kept other id there
    · rintro rfl
      exact absurd ((agreed.kept _ id there).symm.trans nobody) (by simp)
  · by_cases same : other = user
    · subst same
      exact ⟨i, by simp, named⟩
    · rw [row, if_neg same] at there
      rw [Function.update_of_ne same]
      exact agreed.made other id none_before there
  rw [row]
  by_cases same : other = user
  · subst same
    rw [if_pos rfl, Function.update_self]
    rw [List.getElem?_set] at here
    split at here
    · next self =>
      subst self
      split at here <;> cases here
      simpa using stage
    · next elsewhere =>
      have stage := agreed.staged j other r named' here
      rw [nobody] at stage
      have notMaker : decide (maker other = some j) = false := by
        by_contra isMaker
        rw [Bool.not_eq_false] at isMaker
        obtain ⟨-, id, there⟩ := (isMaker ▸ stage).row_of_maker
        exact absurd there (by simp)
      rw [notMaker] at stage
      have now := stage.mono fun id (there : none = some id) =>
        show some (b.newWallet other).id = some id from absurd there nofun
      simpa [elsewhere] using now
  · rw [if_neg same, Function.update_of_ne same]
    rw [List.getElem?_set_ne] at here
    · exact agreed.staged j other r named' here
    · rintro rfl
      exact same (Option.some.inj (named'.symm.trans named))

theorem Agreed.step (obliging : Obliging s holds) (named : ∀ user ∈ users,
    Validation.userId user = .ok ()) (held : holds w.store b)
    (agreed : Agreed s before b users maker rs) (there : rs[i]? = some r)
    (taken : r.step? w = some (r', w')) :
    ∃ b' maker', holds w'.store b' ∧ Agreed s before b' users maker' (rs.set i r') := by
  obtain ⟨below, -⟩ := List.getElem?_eq_some_iff.mp there
  obtain ⟨user, of⟩ : ∃ user, users[i]? = some user :=
    ⟨_, List.getElem?_eq_getElem (agreed.length ▸ below)⟩
  have stage := agreed.staged i user r of there
  have kept (old : ¬ before.walletId? user = none) : ∃ id, b.walletId? user = some id := by
    obtain ⟨id, there⟩ := Option.ne_none_iff_exists'.mp old
    exact ⟨id, agreed.kept _ _ there⟩
  rcases stage.step obliging (named user (List.mem_of_getElem? of)) held kept taken with
    ⟨held, stage⟩ | ⟨vacant, held, stage⟩
  · exact ⟨b, maker, held, agreed.advance of stage⟩
  · exact ⟨_, _, held, agreed.make of vacant (stage _)⟩

/-- What requests of some users come to: every user has one row. A user who had
none before was answered once that it was made, and refused otherwise; a user who
had one keeps it, and was only refused. -/
def WalletsMade (users : List String) (answers : List (Except Failure (Outcome Wallet)))
    (before after : List Wallet) : Prop :=
  answers.length = users.length ∧ ∀ user ∈ users, ∃ row,
    (after.filter fun w => w.userId = user) = [row] ∧
    ((∀ old ∈ before, old.userId ≠ user) → ∃ i : Nat, users[i]? = some user ∧
      (∀ a, answers[i]? = some a → IsMade row.id a) ∧
      ∀ (j : Nat) a, j ≠ i → users[j]? = some user → answers[j]? = some a →
        IsTaken user row.id a) ∧
    ∀ old ∈ before, old.userId = user → row.id = old.id ∧
      ∀ (j : Nat) a, users[j]? = some user → answers[j]? = some a → IsTaken user row.id a

/-- When all requests are done, every user has the one row that one of them made,
or that was there before. -/
theorem Agreed.settled (obliging : Obliging s holds)
    (named : ∀ user ∈ users, Validation.userId user = .ok ()) (w : World S)
    (wf : b.WellFormed) (wfBefore : before.WellFormed)
    {answers : List (Except Failure (Outcome Wallet))}
    (agreed : Agreed s before b users maker (answers.map .done)) :
    WalletsMade users answers before.wallets b.wallets := by
  have length : answers.length = users.length := (List.length_map ..).symm.trans agreed.length
  have answered (j : Nat) (user : String) (a : Except Failure (Outcome Wallet))
      (of : users[j]? = some user) (here : answers[j]? = some a) :=
    (agreed.staged j user _ of (by rw [List.getElem?_map, here]; rfl)).answered obliging
      (named user (List.mem_of_getElem? of)) w
  refine ⟨length, fun user mem => ?_⟩
  obtain ⟨k, below, of⟩ := List.getElem_of_mem mem
  obtain ⟨id, there, -⟩ := answered k user _ (List.getElem?_eq_some_iff.mpr ⟨below, of⟩)
    (List.getElem?_eq_getElem (length ▸ below))
  obtain ⟨row, holder, rfl⟩ := Option.map_eq_some_iff.mp there
  refine ⟨row, wf.filter_owner holder, fun fresh => ?_, fun old old_mem own => ?_⟩
  · have none_before : before.walletId? user = none :=
      Option.map_eq_none_iff.mpr (Books.wallet?_eq_none.mpr fresh)
    obtain ⟨i, isMaker, named⟩ := agreed.made user _ none_before there
    refine ⟨i, named, fun a here => ?_, fun j a other named' here => ?_⟩
    · obtain ⟨id, there', made⟩ := answered i user a named here
      obtain rfl := Option.some.inj (there.symm.trans there')
      simp only [isMaker, decide_true, ↓reduceIte] at made
      exact made.2
    · obtain ⟨id, there', taken⟩ := answered j user a named' here
      obtain rfl := Option.some.inj (there.symm.trans there')
      simpa [isMaker, Ne.symm other] using taken
  · have row_before := Books.walletId?_eq_some (wfBefore.wallet?_eq old_mem own)
    have same : row.id = old.id :=
      Option.some.inj (there.symm.trans (agreed.kept user _ row_before))
    refine ⟨same, fun j a named' here => ?_⟩
    obtain ⟨id, there', taken⟩ := answered j user a named' here
    obtain rfl := Option.some.inj (there.symm.trans there')
    have taken : maker user ≠ some j ∧ IsTaken user row.id a := by simpa [row_before] using taken
    exact taken.2

/-- However requests go on in turn, and whatever happens in between that leaves
the rows of users alone, in the end every user has one row. -/
theorem weave_wallets_made (obliging : Obliging s holds)
    (sound : ∀ {store b}, holds store b → b.WellFormed) {happens : World S → World S → Prop}
    (others : ∀ {w w' b}, holds w.store b → happens w w' →
      ∃ b', holds w'.store b' ∧ ∀ user, b'.walletId? user = b.walletId? user)
    (named : ∀ user ∈ users, Validation.userId user = .ok ()) (held : holds w.store before)
    {answers : List (Except Failure (Outcome Wallet))}
    (weave : Weave happens (users.map s.initWallet) w (answers.map .done) w') :
    ∃ after, holds w'.store after ∧ WalletsMade users answers before.wallets after.wallets := by
  obtain ⟨after, maker, held', agreed⟩ := weave.keeps
    (P := fun rs w => ∃ b maker, holds w.store b ∧ Agreed s before b users maker rs)
    ⟨before, _, held, .start⟩
    (fun _ _ _ _ _ _ ⟨_, _, held, agreed⟩ there taken =>
      agreed.step obliging named held there taken)
    (fun _ _ _ ⟨_, maker, held, agreed⟩ happened =>
      let ⟨b', held', same⟩ := others held happened
      ⟨b', maker, held', agreed.other same⟩)
  exact ⟨after, held', agreed.settled obliging named w (sound held') (sound held)⟩

end Agreement

end WalletLedger
