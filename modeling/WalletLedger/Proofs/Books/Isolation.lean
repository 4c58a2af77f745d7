import WalletLedger.Proofs.Books.Likeness
import WalletLedger.Proofs.Services.Fulfilment

/-!
# The part of a user in two books

Two books may differ in everything but what concerns one user: that user's
wallet and entries are alike (`PartsAlike`). A request that does not name the
user leaves the part of the user alone (`fulfil_untouched`). One that does comes
to the same in both books, when a purchase finds the product on the same terms,
and the parts of the user are alike again (`PartsAlike.fulfil`).
-/

namespace WalletLedger

open Memory

/-! ## What a request leaves alone -/

/-- The user whom a request names. -/
def Request.user? : Request → Option String
  | .initWallet u | .getWallet u | .balance u | .deposit u _ | .withdraw u _ | .purchase u _ _
  | .history u => some u
  | _ => none

/-- The product that a request purchases. -/
def Request.product? : Request → Option String
  | .purchase _ p _ => some p
  | _ => none

/-- The user whom a call of a store names. -/
def StoreCall.user? : StoreCall → Option String
  | .walletByUser u | .createWallet u | .deposit u _ | .withdraw u _ | .purchase u _ _
  | .history u => some u
  | _ => none

namespace Memory.Books

variable {b b' : Books} {user other : String} {w : Wallet}

theorem wallet?_setBalance (balance : Money) (time : Timestamp) :
    (b.setBalance user balance time).wallet? other = (b.wallet? other).map fun w =>
      if w.userId = user then { w with balance, updatedAt := time } else w := by
  unfold wallet? setBalance setWallet
  rw [List.find?_map]
  congr 2
  funext w
  simp only [Function.comp_apply]
  split <;> rfl

theorem wallet?_post (holder : b.wallet? user = some w) (balance : Money) (kind : EntryKind)
    (look : Nat) : (b.post user w.id balance kind look).wallet? user =
      some { w with balance, updatedAt := b.next.time } := by
  show ((b.spend 1 (look + 1)).setBalance user balance b.next.time).wallet? user = _
  rw [wallet?_setBalance, show (b.spend 1 (look + 1)).wallet? user = some w from holder]
  simp [(wallet?_eq_some holder).2]

theorem wallet?_post_other (different : other ≠ user) (walletId : String) (balance : Money)
    (kind : EntryKind) (look : Nat) :
    (b.post user walletId balance kind look).wallet? other = b.wallet? other := by
  show ((b.spend 1 (look + 1)).setBalance user balance b.next.time).wallet? other = b.wallet? other
  rw [wallet?_setBalance, show (b.spend 1 (look + 1)).wallet? other = b.wallet? other from rfl]
  rcases found : b.wallet? other with _ | v
  · rfl
  · simp [(wallet?_eq_some found).2, different]

theorem listEntries_post (walletId : String) (balance : Money) (kind : EntryKind) (look : Nat) :
    (b.post user walletId balance kind look).listEntries =
      b.newEntry walletId kind look :: b.listEntries := by
  simp [listEntries, post, addEntry, setBalance, setWallet, spend]

/-- The history of a user begins with what was posted last. -/
theorem history_post (holder : b.wallet? user = some w) (balance : Money) (kind : EntryKind)
    (look : Nat) : (b.post user w.id balance kind look).history user =
      b.newEntry w.id kind look :: b.history user := by
  simp only [history, wallet?_post holder, listEntries_post, holder]
  exact List.filter_cons_of_pos (beq_self_eq_true w.id)

theorem history_post_other (wf : b.WellFormed) (holder : b.wallet? user = some w)
    (different : other ≠ user) (balance : Money) (kind : EntryKind) (look : Nat) :
    (b.post user w.id balance kind look).history other = b.history other := by
  simp only [history, wallet?_post_other different, listEntries_post]
  rcases found : b.wallet? other with _ | v
  · rfl
  · refine List.filter_cons_of_neg fun own => different ?_
    have same : w.id = v.id := by simpa [newEntry] using own
    rw [← (wallet?_eq_some found).2]
    exact (wf.id_eq_iff holder (wallet?_eq_some found).1).mp same.symm

/-- Nobody has entries before the wallet. -/
theorem history_addWallet (wf : b.WellFormed) (vacant : b.wallet? user = none) :
    ((b.spend 1 1).addWallet (b.newWallet user)).history user = [] := by
  simp only [history, wallet?_addWallet vacant]
  refine List.filter_eq_nil_iff.mpr fun e mem own => ?_
  exact wf.walletId_ne_next (List.mem_reverse.mp mem) (beq_iff_eq.mp own)

/-- The part of a user is the same in books and in later ones. -/
structure Untouched (user : String) (b b' : Books) : Prop where
  wallet : b'.wallet? user = b.wallet? user
  history : b'.history user = b.history user
  supply : b.supply ≤ b'.supply

theorem Untouched.refl (user : String) (b : Books) : Untouched user b b :=
  ⟨rfl, rfl, b.supply.le_refl⟩

/-- A call that does not name a user leaves the part of the user alone. -/
theorem Step.untouched {call : StoreCall} {reply : Reply} (step : Step b call reply b')
    (wf : b.WellFormed) (others : call.user? ≠ some user) : Untouched user b b' := by
  have later := step.supply_le
  have different {name : String} (named : call.user? = some name) : user ≠ name :=
    fun same => others (named.trans (congrArg some same.symm))
  cases step with
  | read => exact .refl user b
  | @createWallet name vacant =>
    have wallet :
        ((b.spend 1 1).addWallet (b.newWallet name)).wallet? user = b.wallet? user := by
      show (b.wallets ++ [b.newWallet name]).find? _ = b.wallets.find? _
      simp [List.find?_append, newWallet, (different rfl).symm]
    refine ⟨wallet, ?_, later⟩
    unfold history
    rw [wallet]
    rfl
  | insertProduct | updateProduct | deleteProduct => exact ⟨rfl, rfl, later⟩
  | deposit holder | withdraw holder =>
    exact ⟨wallet?_post_other (different rfl) .., history_post_other wf holder (different rfl) ..,
      later⟩
  | @purchase name id quantity stock total balance w p look holder =>
    let kind : EntryKind := .purchase id quantity total
    exact ⟨wallet?_post_other (different rfl) w.id balance kind (look + 1),
      history_post_other wf holder (different rfl) balance kind (look + 1), later⟩

/-! ## What a request does to the books -/

variable {how : Manner} {late : Option Duration}

/-- A request left the books as they were, or it took one step of a checked call, which was for
nobody else than the request. -/
def Advances (b : Books) (r : Request) (after : Books) : Prop :=
  after = b ∨ ∃ call reply, call.Checked ∧
    (∀ user, call.user? = some user → r.user? = some user) ∧ Step b call reply after

theorem answers_view {α β : Type} (r : Except Failure α) (f : α → β) :
    (r.map fun a => (f a, b)).map Prod.fst = r.map f := by
  rcases r with _ | _ <;> rfl

theorem fulfil_advances (r : Request) : b.Advances r (b.leaves (b.fulfil how late r)) := by
  refine (fulfil_writes r).imp id fun ⟨call, reply, writes, checked, step⟩ => ?_
  refine ⟨call, reply, checked, fun user names => ?_, step⟩
  cases r <;> cases writes <;> exact names

/-- A request that does not name a user leaves the part of the user alone. -/
theorem fulfil_untouched (wf : b.WellFormed) {r : Request} (others : r.user? ≠ some user) :
    Untouched user b (b.leaves (b.fulfil how late r)) := by
  have advances : b.Advances r (b.leaves (b.fulfil how late r)) := fulfil_advances r
  rcases advances with same | ⟨call, reply, -, named, step⟩
  · rw [same]
    exact .refl user b
  · exact step.untouched wf fun names => others (named user names)

/-! ## The part of a user in two books -/

section Alike

variable {goods : String → String → Prop} {pairs : Pairs} {m m' : Movement}

/-- The parts of a user in two books are alike. -/
structure PartsAlike (goods : String → String → Prop) (pairs : Pairs) (user : String)
    (b b' : Books) : Prop where
  ordered : pairs.IsOrdered
  ids : ∀ p ∈ pairs.ids, b.supply.Gave p.1 ∧ b'.supply.Gave p.2
  times : ∀ p ∈ pairs.times, b.supply.Showed p.1 ∧ b'.supply.Showed p.2
  wallet : Option.Rel (Wallet.Like pairs) (b.wallet? user) (b'.wallet? user)
  history : List.Forall₂ (Entry.Like goods pairs) (b.history user) (b'.history user)

/-- The outcomes of two requests are alike, and so are the parts of a user that they leave. -/
def OutcomesAlike (goods : String → String → Prop) (pairs : Pairs) (user : String) (b b' : Books)
    (o o' : Except Failure (Outcome Reply × Books)) : Prop :=
  ∃ later, pairs ⊆ later ∧ AnswersLike goods later (o.map Prod.fst) (o'.map Prod.fst) ∧
    PartsAlike goods later user (b.leaves o) (b'.leaves o')

/-- The price and the stock that a purchase finds, if the product is live. -/
def terms (b : Books) (r : Request) : Option (Option (Money × Int64)) :=
  r.product?.map fun id => (b.product? id).map fun p => (p.price, p.stock)

/-- The pairs with what a change of two books takes that makes a row and looks at the clock once. -/
def made (pairs : Pairs) (b b' : Books) : Pairs :=
  pairs.add b.next.id b'.next.id [(b.next.time, b'.next.time)]

/-- The pairs with what a change of two books takes that posts an entry. -/
def posted (pairs : Pairs) (b b' : Books) (look look' : Nat) : Pairs :=
  pairs.add b.next.id b'.next.id
    [(b.next.time, b'.next.time), (b.instant (look + 1), b'.instant (look' + 1))]

namespace PartsAlike

theorem untouched_left {c : Books} (h : PartsAlike goods pairs user b b')
    (same : Untouched user b c) : PartsAlike goods pairs user c b' :=
  ⟨h.ordered, fun p mem => ⟨(h.ids p mem).1.mono same.supply, (h.ids p mem).2⟩,
    fun p mem => ⟨(h.times p mem).1.mono same.supply, (h.times p mem).2⟩,
    same.wallet ▸ h.wallet, same.history ▸ h.history⟩

theorem untouched_right {c : Books} (h : PartsAlike goods pairs user b b')
    (same : Untouched user b' c) : PartsAlike goods pairs user b c :=
  ⟨h.ordered, fun p mem => ⟨(h.ids p mem).1, (h.ids p mem).2.mono same.supply⟩,
    fun p mem => ⟨(h.times p mem).1, (h.times p mem).2.mono same.supply⟩,
    same.wallet ▸ h.wallet, same.history ▸ h.history⟩

/-- Books in which a user has no part. -/
theorem opening (goods : String → String → Prop) (user : String) (users users' : List User)
    (supply supply' : Supply) :
    PartsAlike goods .none user (.opening users supply) (.opening users' supply') :=
  ⟨⟨.nil, .nil⟩, nofun, nofun, .none, .nil⟩

/-! ### More is taken -/

theorem ordered_made (h : PartsAlike goods pairs user b b') : (made pairs b b').IsOrdered := by
  constructor
  · refine List.pairwise_append.mpr
      ⟨h.ordered.ids, List.pairwise_singleton _ _, fun p mem q last => ?_⟩
    obtain rfl := List.mem_singleton.mp last
    exact ⟨(h.ids p mem).1.ne_next, (h.ids p mem).2.ne_next⟩
  · refine List.pairwise_append.mpr
      ⟨h.ordered.times, List.pairwise_singleton _ _, fun p mem q last => ?_⟩
    obtain rfl := List.mem_singleton.mp last
    exact ⟨(h.times p mem).1.precedes 0, (h.times p mem).2.precedes 0⟩

theorem ordered_posted (h : PartsAlike goods pairs user b b') (look look' : Nat) :
    (posted pairs b b' look look').IsOrdered := by
  refine ⟨h.ordered_made.ids,
    List.pairwise_append.mpr ⟨h.ordered.times, ?_, fun p mem q last => ?_⟩⟩
  · refine List.pairwise_pair.mpr ?_
    exact ⟨Source.instant_precedes (by omega), Source.instant_precedes (by omega)⟩
  · have later (look look' : Nat) := And.intro ((h.times p mem).1.precedes look)
      ((h.times p mem).2.precedes look')
    rcases List.mem_pair.mp last with rfl | rfl
    · exact later 0 0
    · exact later (look + 1) (look' + 1)

theorem gave_next (h : PartsAlike goods pairs user b b') (looks looks' : Nat)
    (p : String × String) (mem : p ∈ pairs.ids ++ [(b.next.id, b'.next.id)]) :
    (b.spend 1 looks).supply.Gave p.1 ∧ (b'.spend 1 looks').supply.Gave p.2 := by
  rcases List.mem_append.mp mem with mem | last
  · exact ⟨(h.ids p mem).1.mono (b.supply.le_spend 1 looks),
      (h.ids p mem).2.mono (b'.supply.le_spend 1 looks')⟩
  · obtain rfl := List.mem_singleton.mp last
    exact ⟨⟨_, Nat.lt_succ_self _, rfl⟩, ⟨_, Nat.lt_succ_self _, rfl⟩⟩

/-- Times that the clocks show next are shown when they have been looked at often enough. -/
theorem showed_next (h : PartsAlike goods pairs user b b') (looks looks' : Nat)
    (seen : List (Nat × Nat)) (early : ∀ look ∈ seen, look.1 < looks ∧ look.2 < looks')
    (p : Timestamp × Timestamp)
    (mem : p ∈ pairs.times ++ seen.map fun look => (b.instant look.1, b'.instant look.2)) :
    (b.spend 1 looks).supply.Showed p.1 ∧ (b'.spend 1 looks').supply.Showed p.2 := by
  rcases List.mem_append.mp mem with mem | last
  · exact ⟨(h.times p mem).1.mono (b.supply.le_spend 1 looks),
      (h.times p mem).2.mono (b'.supply.le_spend 1 looks')⟩
  · obtain ⟨look, there, rfl⟩ := List.mem_map.mp last
    exact ⟨⟨_, Nat.add_lt_add_left (early look there).1 _, rfl⟩,
      ⟨_, Nat.add_lt_add_left (early look there).2 _, rfl⟩⟩

theorem newWallet_like (pairs : Pairs) (user : String) :
    (b.newWallet user).Like (made pairs b b') (b'.newWallet user) := by
  have now : (made pairs b b').Times b.next.time b'.next.time :=
    Pairs.times_add _ _ _ (List.mem_singleton_self _)
  exact ⟨Pairs.ids_add .., rfl, rfl, now, now⟩

theorem joined_like {w w' : Wallet} (wallets : w.Like pairs w') :
    (b.joined w).Like pairs (b'.joined w') :=
  ⟨wallets.id, wallets.userId, wallets.balance, wallets.createdAt, wallets.updatedAt⟩

theorem addWallet (h : PartsAlike goods pairs user b b') (wf : b.WellFormed)
    (wf' : b'.WellFormed) (vacant : b.wallet? user = none) (vacant' : b'.wallet? user = none) :
    PartsAlike goods (made pairs b b') user ((b.spend 1 1).addWallet (b.newWallet user))
      ((b'.spend 1 1).addWallet (b'.newWallet user)) where
  ordered := h.ordered_made
  ids := h.gave_next 1 1
  times := h.showed_next 1 1 [(0, 0)] (by simp)
  wallet := by
    rw [wallet?_addWallet vacant, wallet?_addWallet vacant']
    exact .some (newWallet_like pairs user)
  history := by
    rw [history_addWallet wf vacant, history_addWallet wf' vacant']
    exact .nil

theorem newEntry_like {w w' : Wallet} (wallets : w.Like pairs w') {k k' : EntryKind}
    (kinds : k.Like goods k') (look look' : Nat) :
    (b.newEntry w.id k (look + 1)).Like goods (posted pairs b b' look look')
      (b'.newEntry w'.id k' (look' + 1)) :=
  ⟨Pairs.ids_add .., wallets.id.mono (Pairs.subset_add ..), kinds,
    Pairs.times_add _ _ _ (List.mem_cons_of_mem _ (List.mem_singleton_self _))⟩

theorem post (h : PartsAlike goods pairs user b b') {w w' : Wallet}
    (holder : b.wallet? user = some w) (holder' : b'.wallet? user = some w')
    (wallets : w.Like pairs w') {k k' : EntryKind} (kinds : k.Like goods k') (balance : Money)
    (look look' : Nat) (articles articles' : List Article) :
    PartsAlike goods (posted pairs b b' look look') user
      { b.post user w.id balance k (look + 1) with articles }
      { b'.post user w'.id balance k' (look' + 1) with articles := articles' } where
  ordered := h.ordered_posted look look'
  ids := h.gave_next (look + 2) (look' + 2)
  times := h.showed_next (look + 2) (look' + 2) [(0, 0), (look + 1, look' + 1)] (by simp)
  wallet := by
    show Option.Rel _ ((b.post user w.id balance k (look + 1)).wallet? user)
      ((b'.post user w'.id balance k' (look' + 1)).wallet? user)
    rw [wallet?_post holder, wallet?_post holder']
    have older : w.Like (posted pairs b b' look look') w' := wallets.mono (Pairs.subset_add ..)
    exact .some ⟨older.id, older.userId, rfl, older.createdAt,
      Pairs.times_add _ _ _ List.mem_cons_self⟩
  history := by
    show List.Forall₂ _ ((b.post user w.id balance k (look + 1)).history user)
      ((b'.post user w'.id balance k' (look' + 1)).history user)
    rw [history_post holder, history_post holder']
    exact .cons (newEntry_like wallets kinds look look')
      (h.history.imp fun _ _ older => older.mono (Pairs.subset_add ..))

/-! ### Outcomes that leave the books as they are -/

theorem refused (h : PartsAlike goods pairs user b b') {e e' : LedgerError}
    (same : e.Like goods pairs e') :
    OutcomesAlike goods pairs user b b' (.error (.refused e)) (.error (.refused e')) :=
  ⟨pairs, pairs.subset_refl, .refused same, h⟩

theorem answered (h : PartsAlike goods pairs user b b') (status : Status) {r r' : Reply}
    (same : r.Like goods pairs r') :
    OutcomesAlike goods pairs user b b' (.ok (⟨status, r⟩, b)) (.ok (⟨status, r'⟩, b')) :=
  ⟨pairs, pairs.subset_refl, .answered status same, h⟩

theorem checked (h : PartsAlike goods pairs user b b') (c : Validation.Check)
    {o o' : Except Failure (Outcome Reply × Books)}
    (rest : OutcomesAlike goods pairs user b b' o o') :
    OutcomesAlike goods pairs user b b' (Failure.ofCheck c >>= fun _ => o)
      (Failure.ofCheck c >>= fun _ => o') := by
  rcases c with e | _
  · exact h.refused (.equal rfl rfl)
  · exact rest

/-- The wallet of the user is in both books or in neither. -/
theorem wallet_cases (h : PartsAlike goods pairs user b b') :
    (b.wallet? user = none ∧ b'.wallet? user = none) ∨
      ∃ w w', b.wallet? user = some w ∧ b'.wallet? user = some w' ∧ w.Like pairs w' := by
  have wallets := h.wallet
  generalize b.wallet? user = found, b'.wallet? user = found' at wallets
  cases wallets with
  | none => exact .inl ⟨rfl, rfl⟩
  | some same => exact .inr ⟨_, _, rfl, rfl, same⟩

theorem holding (h : PartsAlike goods pairs user b b') (tell : Wallet → Reply)
    (tells : ∀ w w', w.Like pairs w' → (tell w).Like goods pairs (tell w')) :
    AnswersLike goods pairs ((b.holding user).map fun w => .ok (tell w))
      ((b'.holding user).map fun w => .ok (tell w)) := by
  unfold Books.holding
  rcases Validation.userId user with e | _
  · exact .refused (.equal rfl rfl)
  · rcases h.wallet_cases with ⟨none, none'⟩ | ⟨w, w', holder, holder', alike⟩
    · rw [none, none']
      exact .refused (.equal rfl rfl)
    · rw [holder, holder']
      exact .answered .ok (tells _ _ (joined_like alike))

/-- A view of like parts leaves the books as they are. -/
theorem viewed {α : Type} (h : PartsAlike goods pairs user b b') {r r' : Except Failure α}
    {tell : α → Outcome Reply} (alike : AnswersLike goods pairs (r.map tell) (r'.map tell)) :
    OutcomesAlike goods pairs user b b' (r.map fun a => (tell a, b))
      (r'.map fun a => (tell a, b')) := by
  refine ⟨pairs, pairs.subset_refl, ?_, ?_⟩
  · rw [answers_view, answers_view]
    exact alike
  · rw [leaves_view, leaves_view]
    exact h

/-- The user is shown the same in both books. -/
theorem shown (h : PartsAlike goods pairs user b b') (late late' : Option Duration) :
    AnswersLike goods pairs ((b.fulfil how late (.getWallet user)).map Prod.fst)
        ((b'.fulfil how late' (.getWallet user)).map Prod.fst) ∧
      AnswersLike goods pairs ((b.fulfil how late (.history user)).map Prod.fst)
        ((b'.fulfil how late' (.history user)).map Prod.fst) := by
  constructor
  · simp only [Books.fulfil, answers_view]
    exact h.holding .wallet fun _ _ same => .wallet same
  · simp only [Books.fulfil]
    rcases Validation.userId user with e | _
    · exact .refused (.equal rfl rfl)
    · exact .answered .ok (.entries h.history)

end PartsAlike

/-! ### Movements -/

theorem terms_cases {id id' : String}
    (same : ((b.product? id).map fun p => (p.price, p.stock)) =
      (b'.product? id').map fun p => (p.price, p.stock)) :
    (b.product? id = none ∧ b'.product? id' = none) ∨
      ∃ p p', b.product? id = some p ∧ b'.product? id' = some p' ∧ p.price = p'.price ∧
        p.stock = p'.stock := by
  generalize b.product? id = found, b'.product? id' = found' at same
  rcases found with _ | p <;> rcases found' with _ | p'
  · exact .inl ⟨rfl, rfl⟩
  · cases same
  · cases same
  · exact .inr ⟨p, p', rfl, rfl, Prod.mk.inj (Option.some.inj same)⟩

theorem user_like (like : m.request.Like goods m'.request) : m'.user = m.user := by
  rcases m with _ | _ | _ <;> rcases m' with _ | _ | _ <;> cases like <;> rfl

theorem flaw?_like (like : m.request.Like goods m'.request) : m.flaw? = m'.flaw? := by
  rcases m with _ | _ | _ <;> rcases m' with _ | _ | _ <;> cases like <;> rfl

theorem plain_of_flaw {e : LedgerError} (flaw : m.flaw? = some e) : e.Like goods pairs e := by
  unfold Movement.flaw? at flaw
  split at flaw
  · cases flaw
    exact .equal rfl rfl
  · rcases m with ⟨_, amount⟩ | ⟨_, amount⟩ | ⟨_, _, quantity⟩ <;>
      simp only [Option.ite_none_right_eq_some, Option.some.injEq] at flaw <;>
      obtain ⟨-, rfl⟩ := flaw <;> exact .equal rfl rfl

/-- The same keeps wallets alike from a movement, or nothing does. -/
theorem shortfall?_like {w w' : Wallet} (wallets : w.balance = w'.balance)
    (like : m.request.Like goods m'.request) (same : b.terms m.request = b'.terms m'.request) :
    Option.Rel (LedgerError.Like goods pairs) (b.shortfall? w m) (b'.shortfall? w' m') := by
  have rel_if {c : Prop} [Decidable c] {e e' : LedgerError} (alike : e.Like goods pairs e')
      {rest rest' : Option LedgerError}
      (others : Option.Rel (LedgerError.Like goods pairs) rest rest') :
      Option.Rel (LedgerError.Like goods pairs) (if c then some e else rest)
        (if c then some e' else rest') := by
    split
    · exact .some alike
    · exact others
  rcases m with ⟨u, a⟩ | ⟨u, a⟩ | ⟨u, id, q⟩ <;>
    rcases m' with ⟨u', a'⟩ | ⟨u', a'⟩ | ⟨u', id', q'⟩ <;> cases like
  case deposit =>
    simp only [shortfall?, wallets]
    exact rel_if (.equal rfl rfl) .none
  case withdraw =>
    simp only [shortfall?, wallets]
    exact rel_if (.equal rfl rfl) .none
  case purchase goods =>
    rcases terms_cases (Option.some.inj same) with
      ⟨none, none'⟩ | ⟨p, p', live, live', price, stock⟩
    · simp only [shortfall?, none, none']
      exact .some (.productNotFound goods)
    · simp only [shortfall?, live, live', wallets, price, stock]
      refine rel_if (.insufficientStock goods ..) ?_
      exact rel_if (.equal rfl rfl) (rel_if (.equal rfl rfl) .none)

theorem hindrance?_like (h : PartsAlike goods pairs m.user b b')
    (like : m.request.Like goods m'.request) (same : b.terms m.request = b'.terms m'.request) :
    Option.Rel (LedgerError.Like goods pairs) (b.hindrance? m) (b'.hindrance? m') := by
  unfold hindrance?
  rw [user_like like]
  rcases h.wallet_cases with ⟨none, none'⟩ | ⟨w, w', holder, holder', wallets⟩
  · rw [none, none']
    exact .some (.equal rfl rfl)
  · rw [holder, holder']
    exact shortfall?_like wallets.balance like same

theorem kind_like (like : m.request.Like goods m'.request)
    (same : b.terms m.request = b'.terms m'.request) {k k' : EntryKind} (records : b.Records k m)
    (records' : b'.Records k' m') : k.Like goods k' := by
  rcases m with ⟨u, a⟩ | ⟨u, a⟩ | ⟨u, id, q⟩ <;>
    rcases m' with ⟨u', a'⟩ | ⟨u', a'⟩ | ⟨u', id', q'⟩ <;> cases like
  case deposit =>
    obtain rfl : k = _ := records
    obtain rfl : k' = _ := records'
    exact .deposit a
  case withdraw =>
    obtain rfl : k = _ := records
    obtain rfl : k' = _ := records'
    exact .withdraw a
  case purchase goods =>
    obtain ⟨p, total, live, priced, rfl⟩ := records
    obtain ⟨p', total', live', priced', rfl⟩ := records'
    have found : some (p.price, p.stock) = some (p'.price, p'.stock) := by
      simpa [terms, Movement.request, Request.product?, live, live'] using same
    have price : p.price = p'.price := congrArg Prod.fst (Option.some.inj found)
    obtain rfl : total = total' := Money.ext_value (by rw [priced, priced', price])
    exact .purchase goods q total

/-- An answered movement posts one entry. -/
theorem Step.posts {reply : Reply} (step : Step b m.call reply b') :
    ∃ w balance kind look articles, b.wallet? m.user = some w ∧ b.Records kind m ∧
      balance.value = w.balance.value + kind.effect ∧
      reply = .entry (b.newEntry w.id kind (look + 1)) ∧
      b' = { b.post m.user w.id balance kind (look + 1) with articles } := by
  rcases m with ⟨user, amount⟩ | ⟨user, amount⟩ | ⟨user, id, quantity⟩
  · cases step with
    | read reads => exact absurd reads Bool.false_ne_true
    | @deposit _ _ balance w holder exact =>
      exact ⟨w, balance, _, 0, _, holder, rfl, exact, rfl, rfl⟩
  · cases step with
    | read reads => exact absurd reads Bool.false_ne_true
    | @withdraw _ _ balance w holder enough exact =>
      exact ⟨w, balance, _, 0, _, holder, rfl, exact, rfl, rfl⟩
  · cases step with
    | read reads => exact absurd reads Bool.false_ne_true
    | @purchase _ _ _ stock total balance w p look holder live inStock priced enough exact left =>
      exact ⟨w, balance, _, look, _, holder, ⟨p, total, live, priced, rfl⟩, exact, rfl, rfl⟩

/-- Like movements that are answered post like entries. -/
theorem PartsAlike.posted (h : PartsAlike goods pairs m.user b b')
    (like : m.request.Like goods m'.request) (same : b.terms m.request = b'.terms m'.request)
    {reply reply' : Reply} {after after' : Books} (step : Step b m.call reply after)
    (step' : Step b' m'.call reply' after') :
    OutcomesAlike goods pairs m.user b b' (.ok (⟨.created, reply⟩, after))
      (.ok (⟨.created, reply'⟩, after')) := by
  obtain ⟨w, balance, k, look, articles, holder, records, exact, rfl, rfl⟩ := step.posts
  obtain ⟨w', balance', k', look', articles', holder', records', exact', rfl, rfl⟩ := step'.posts
  rw [user_like like] at holder' ⊢
  have wallets : w.Like pairs w' := by
    have wallets := h.wallet
    rw [holder, holder'] at wallets
    cases wallets with
    | some same => exact same
  have kinds := kind_like like same records records'
  obtain rfl : balance = balance' :=
    Money.ext_value (by rw [exact, exact', wallets.balance, kinds.effect])
  exact ⟨Books.posted pairs b b' look look', Pairs.subset_add ..,
    .answered .created (.entry (newEntry_like wallets kinds look look')),
    h.post holder holder' wallets kinds balance look look' articles articles'⟩

/-- A movement is answered where nothing hinders it. -/
theorem respond_isOk (solvent : b.Solvent) (sound : m.flaw? = none) :
    (b.respond how m.call).isOk = (b.hindrance? m).isNone := by
  rcases hindered : b.hindrance? m with _ | e
  · obtain ⟨e, after, answered, -⟩ :=
      respond_of_no_hindrance solvent.wellFormed solvent.inBounds sound hindered
    rw [answered]
    rfl
  · rw [respond_of_hindrance solvent.inBounds sound hindered]
    rfl

namespace PartsAlike

variable (h : PartsAlike goods pairs user b b') (solvent : b.Solvent) (solvent' : b'.Solvent)

include h solvent solvent'

/-- A movement is answered in both books or in neither. -/
theorem respond_isOk (like : m.request.Like goods m'.request) (own : m.user = user)
    (same : b.terms m.request = b'.terms m'.request) (sound : m.flaw? = none) :
    (b.respond how m.call).isOk = (b'.respond how m'.call).isOk := by
  subst own
  rw [Books.respond_isOk solvent sound, Books.respond_isOk solvent' (flaw?_like like ▸ sound)]
  have hindered := hindrance?_like h like same
  generalize b.hindrance? m = found, b'.hindrance? m' = found' at hindered
  cases hindered <;> rfl

theorem move (like : m.request.Like goods m'.request) (own : m.user = user)
    (same : b.terms m.request = b'.terms m'.request) {late' : Option Duration}
    (inTime : m.flaw? = none → late = late') :
    OutcomesAlike goods pairs user b b' (b.move how late m) (b'.move how late' m') := by
  subst own
  unfold Books.move
  rw [← flaw?_like like]
  rcases flaw : m.flaw? with _ | e
  · obtain rfl := inTime flaw
    rcases late with _ | limit
    · have sound' : m'.flaw? = none := flaw?_like like ▸ flaw
      have hindered := hindrance?_like h like same
      rcases free : b.hindrance? m with _ | e <;> rcases free' : b'.hindrance? m' with _ | e' <;>
        rw [free, free'] at hindered <;> cases hindered
      case none =>
        obtain ⟨_, _, answered : b.respond how m.call = _, -⟩ :=
          respond_of_no_hindrance solvent.wellFormed solvent.inBounds flaw free
        obtain ⟨_, _, answered' : b'.respond how m'.call = _, -⟩ :=
          respond_of_no_hindrance solvent'.wellFormed solvent'.inBounds sound' free'
        simp only [comesTo, answered, answered']
        exact h.posted like same (respond_step answered) (respond_step answered')
      case some alike =>
        simp only [comesTo, respond_of_hindrance solvent.inBounds flaw free,
          respond_of_hindrance solvent'.inBounds sound' free']
        exact h.refused alike
    · exact h.refused (.equal rfl rfl)
  · exact h.refused (plain_of_flaw flaw)

/-- Like requests of a user have like outcomes. -/
theorem fulfil {r r' : Request} (names : r.user? = some user) (like : r.Like goods r')
    (same : b.terms r = b'.terms r') {late' : Option Duration}
    (inTime : ∀ m m', r.movement? = some m → r'.movement? = some m' → m.flaw? = none →
      late = late') :
    OutcomesAlike goods pairs user b b' (b.fulfil how late r) (b'.fulfil how late' r') := by
  cases like with
  | initWallet name =>
    cases names
    refine h.checked (Validation.userId user) ?_
    rcases h.wallet_cases with ⟨vacant, vacant'⟩ | ⟨w, w', holder, holder', alike⟩
    · rw [vacant, vacant']
      exact ⟨made pairs b b', Pairs.subset_add ..,
        .answered .created (.wallet (joined_like (newWallet_like pairs user))),
        h.addWallet solvent.wellFormed solvent'.wellFormed vacant vacant'⟩
    · rw [holder, holder']
      exact h.refused (.walletAlreadyExists (joined_like alike))
  | getWallet name =>
    cases names
    exact h.viewed (h.holding .wallet fun _ _ alike => .wallet alike)
  | balance name =>
    cases names
    refine h.viewed (h.holding (fun w => .money w.balance) fun w w' alike => ?_)
    show (Reply.money w.balance).Like goods pairs (.money w'.balance)
    rw [alike.balance]
    exact .money _
  | history name =>
    cases names
    exact h.checked (Validation.userId user) (h.answered .ok (.entries h.history))
  | deposit name amount =>
    have like : (Movement.deposit name amount).request.Like goods
      (Movement.deposit name amount).request := .deposit name amount
    exact h.move solvent solvent' like (Option.some.inj names) same (inTime _ _ rfl rfl)
  | withdraw name amount =>
    have like : (Movement.withdraw name amount).request.Like goods
      (Movement.withdraw name amount).request := .withdraw name amount
    exact h.move solvent solvent' like (Option.some.inj names) same (inTime _ _ rfl rfl)
  | @purchase name id id' goods quantity =>
    have like : (Movement.purchase name id quantity).request.Like _
      (Movement.purchase name id' quantity).request := .purchase name goods quantity
    exact h.move solvent solvent' like (Option.some.inj names) same (inTime _ _ rfl rfl)

end PartsAlike

end Alike

end Memory.Books

end WalletLedger
