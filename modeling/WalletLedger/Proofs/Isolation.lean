import WalletLedger.Proofs.Books.Isolation
import WalletLedger.Proofs.Regularity

/-!
# Users are isolated

What other users do, and what happens to the catalog, is nothing to a user but
for the price and the stock of what the user purchases. In two runs in which a
user asks for the same, on the same terms, the user is answered alike, and in
the end has like wallets and histories (`users_are_isolated`). It holds over a
memory store and over a database, without a cache.
-/

namespace WalletLedger

open Memory Database

/-- What a user asked for in a run, what the store said just before of the product that was to be
purchased, and what came of it. -/
structure Dealing where
  request : Request
  terms : Option (Except Failure (Option (Money × Int64)))
  outcome : Except Failure (Outcome Reply)

/-- The same was asked for on the same terms, but for the product that goes by another name. -/
structure Dealing.AsksLike (goods : String → String → Prop) (d d' : Dealing) : Prop where
  request : d.request.Like goods d'.request
  terms : d.terms = d'.terms

namespace Services

variable {S : Type} (s s' : Services (StateM (World S)))

/-- The price and the stock that the store names for the product that a request purchases, if it
is live. -/
def terms (r : Request) (w : World S) : Option (Except Failure (Option (Money × Int64))) :=
  r.product?.map fun id =>
    (s.store.productById none id w).1.map (Option.map fun p => (p.price, p.stock))

/-- What a user asks for in a run, and what comes of it. -/
def dealings (user : String) : List Request → World S → List Dealing
  | [], _ => []
  | r :: rs, w =>
    if r.user? = some user then
      ⟨r, s.terms r w, (s.serve r w).1⟩ :: dealings user rs (s.after w r)
    else dealings user rs (s.after w r)

theorem dealings_own {user : String} {r : Request} (own : r.user? = some user) (rs : List Request)
    (w : World S) : s.dealings user (r :: rs) w =
      ⟨r, s.terms r w, (s.serve r w).1⟩ :: s.dealings user rs (s.after w r) :=
  if_pos own

theorem dealings_other {user : String} {r : Request} (others : r.user? ≠ some user)
    (rs : List Request) (w : World S) :
    s.dealings user (r :: rs) w = s.dealings user rs (s.after w r) :=
  if_neg others

/-- A user fares alike in two runs: every answer is alike, and so are the wallet and the history
in the end. -/
structure FareAlike (goods : String → String → Prop) (pairs : Pairs) (user : String)
    (rs rs' : List Request) (w w' : World S) : Prop where
  ordered : pairs.IsOrdered
  answers : List.Forall₂ (fun d d' => AnswersLike goods pairs d.outcome d'.outcome)
    (s.dealings user rs w) (s'.dealings user rs' w')
  wallet : AnswersLike goods pairs (s.serve (.getWallet user) (s.run rs w)).1
    (s'.serve (.getWallet user) (s'.run rs' w')).1
  history : AnswersLike goods pairs (s.serve (.history user) (s.run rs w)).1
    (s'.serve (.history user) (s'.run rs' w')).1

namespace FareAlike

variable {s s'} {goods : String → String → Prop} {pairs : Pairs} {user : String}
  {rs rs' : List Request} {w w' : World S} {r r' : Request}

theorem other_left (h : s.FareAlike s' goods pairs user rs rs' (s.after w r) w')
    (others : r.user? ≠ some user) : s.FareAlike s' goods pairs user (r :: rs) rs' w w' := by
  refine ⟨h.ordered, ?_, h.wallet, h.history⟩
  rw [s.dealings_other others]
  exact h.answers

theorem other_right (h : s.FareAlike s' goods pairs user rs rs' w (s'.after w' r'))
    (others : r'.user? ≠ some user) : s.FareAlike s' goods pairs user rs (r' :: rs') w w' := by
  refine ⟨h.ordered, ?_, h.wallet, h.history⟩
  rw [s'.dealings_other others]
  exact h.answers

theorem both (h : s.FareAlike s' goods pairs user rs rs' (s.after w r) (s'.after w' r'))
    (own : r.user? = some user) (own' : r'.user? = some user)
    (told : AnswersLike goods pairs (s.serve r w).1 (s'.serve r' w').1) :
    s.FareAlike s' goods pairs user (r :: rs) (r' :: rs') w w' := by
  refine ⟨h.ordered, ?_, h.wallet, h.history⟩
  rw [s.dealings_own own, s'.dealings_own own']
  exact .cons told h.answers

end FareAlike

end Services

/-! ## Two runs -/

section Runs

variable {S : Type} {how : Manner} {holds : S → Books → Prop}
  {tempo : Movement → Bool → Option Duration → Prop} {s s' : Services (StateM (World S))}
  {goods : String → String → Prop} {pairs : Pairs} {user : String} {w w' : World S} {r r' : Request}

/-- Two stores hold solvent books in which the parts of a user are alike. -/
def Abreast (holds : S → Books → Prop) (goods : String → String → Prop) (pairs : Pairs)
    (user : String) (w w' : World S) : Prop :=
  ∃ b b', holds w.store b ∧ b.Solvent ∧ holds w'.store b' ∧ b'.Solvent ∧
    Books.PartsAlike goods pairs user b b'

/-- Services over a store that is regular, without a cache. -/
structure Plain (how : Manner) (holds : S → Books → Prop)
    (tempo : Movement → Bool → Option Duration → Prop) (s : Services (StateM (World S))) :
    Prop where
  regular : Regular how holds tempo s.store
  uncached : s.cache = .absent

theorem Plain.untouched (plain : Plain how holds tempo s) {b : Books} (held : holds w.store b)
    (solvent : b.Solvent) (others : r.user? ≠ some user) :
    ∃ after, holds (s.after w r).store after ∧ after.Solvent ∧ Books.Untouched user b after := by
  obtain ⟨late, -, -, left⟩ :=
    serve_alone plain.regular held solvent.wellFormed plain.uncached solvent.inBounds r
  exact ⟨_, left, Books.fulfil_solvent solvent r, Books.fulfil_untouched solvent.wellFormed others⟩

namespace Abreast

theorem after_left (h : Abreast holds goods pairs user w w') (plain : Plain how holds tempo s)
    (others : r.user? ≠ some user) : Abreast holds goods pairs user (s.after w r) w' := by
  obtain ⟨b, b', held, solvent, held', solvent', alike⟩ := h
  obtain ⟨after, held, solvent, same⟩ := plain.untouched held solvent others
  exact ⟨after, b', held, solvent, held', solvent', alike.untouched_left same⟩

theorem after_right (h : Abreast holds goods pairs user w w') (plain : Plain how holds tempo s')
    (others : r.user? ≠ some user) : Abreast holds goods pairs user w (s'.after w' r) := by
  obtain ⟨b, b', held, solvent, held', solvent', alike⟩ := h
  obtain ⟨after, held', solvent', same⟩ := plain.untouched held' solvent' others
  exact ⟨b, after, held, solvent, held', solvent', alike.untouched_right same⟩

/-- The store names the terms that the books name. -/
theorem terms_eq (plain : Plain how holds tempo s) {b : Books} (held : holds w.store b)
    (wf : b.WellFormed) (r : Request) : s.terms r w = (b.terms r).map .ok := by
  unfold Services.terms Books.terms
  rcases r.product? with _ | id
  · rfl
  · simp only [Option.map_some, plain.regular.productById held wf]
    rfl

/-- Like requests of the user are answered alike. -/
theorem serve (h : Abreast holds goods pairs user w w') (plain : Plain how holds tempo s)
    (plain' : Plain how holds tempo s')
    (steady : ∀ {m m' answered late late'}, tempo m answered late → tempo m' answered late' →
      late = late')
    (names : r.user? = some user) (like : r.Like goods r') (same : s.terms r w = s'.terms r' w') :
    ∃ later, pairs ⊆ later ∧ AnswersLike goods later (s.serve r w).1 (s'.serve r' w').1 ∧
      Abreast holds goods later user (s.after w r) (s'.after w' r') := by
  obtain ⟨b, b', held, solvent, held', solvent', alike⟩ := h
  have terms : b.terms r = b'.terms r' := by
    rw [terms_eq plain held solvent.wellFormed, terms_eq plain' held' solvent'.wellFormed] at same
    exact Option.map_injective (fun _ _ => Except.ok.inj) same
  obtain ⟨late, timed, answers, left⟩ :=
    serve_alone plain.regular held solvent.wellFormed plain.uncached solvent.inBounds r
  obtain ⟨late', timed', answers', left'⟩ :=
    serve_alone plain'.regular held' solvent'.wellFormed plain'.uncached solvent'.inBounds r'
  -- both are late, or neither is
  have inTime (m m' : Movement) (moves : r.movement? = some m) (moves' : r'.movement? = some m')
      (sound : m.flaw? = none) : late = late' := by
    obtain rfl := Request.movement?_eq_some moves
    obtain rfl := Request.movement?_eq_some moves'
    have own : m.user = user := by cases m <;> exact Option.some.inj names
    have tempo := timed m moves sound
    rw [alike.respond_isOk solvent solvent' like own terms sound] at tempo
    exact steady tempo (timed' m' moves' (Books.flaw?_like like ▸ sound))
  obtain ⟨later, sub, told, parts⟩ := alike.fulfil solvent solvent' names like terms inTime
  rw [← answers, ← answers'] at told
  exact ⟨later, sub, told, _, _, left, Books.fulfil_solvent solvent r, left',
    Books.fulfil_solvent solvent' r', parts⟩

theorem shown (h : Abreast holds goods pairs user w w') (plain : Plain how holds tempo s)
    (plain' : Plain how holds tempo s') :
    AnswersLike goods pairs (s.serve (.getWallet user) w).1 (s'.serve (.getWallet user) w').1 ∧
      AnswersLike goods pairs (s.serve (.history user) w).1 (s'.serve (.history user) w').1 := by
  obtain ⟨b, b', held, solvent, held', solvent', alike⟩ := h
  have asks := serve_alone plain.regular held solvent.wellFormed plain.uncached solvent.inBounds
  have asks' :=
    serve_alone plain'.regular held' solvent'.wellFormed plain'.uncached solvent'.inBounds
  obtain ⟨late₁, -, wallet, -⟩ := asks (.getWallet user)
  obtain ⟨late₂, -, wallet', -⟩ := asks' (.getWallet user)
  obtain ⟨late₃, -, history, -⟩ := asks (.history user)
  obtain ⟨late₄, -, history', -⟩ := asks' (.history user)
  rw [wallet, wallet', history, history']
  exact ⟨(alike.shown late₁ late₂).1, (alike.shown late₃ late₄).2⟩

end Abreast

/-- Whoever asks for the same on the same terms fares alike. -/
theorem fare_alike (plain : Plain how holds tempo s) (plain' : Plain how holds tempo s')
    (steady : ∀ {m m' answered late late'}, tempo m answered late → tempo m' answered late' →
      late = late')
    (abreast : Abreast holds goods pairs user w w') {rs rs' : List Request}
    (asks : List.Forall₂ (Dealing.AsksLike goods) (s.dealings user rs w)
      (s'.dealings user rs' w')) :
    ∃ later, pairs ⊆ later ∧ s.FareAlike s' goods later user rs rs' w w' := by
  -- whichever run is at a request of somebody else goes on alone
  induction rs generalizing pairs w w' rs' with
  | nil =>
    induction rs' generalizing w' with
    | nil =>
      obtain ⟨wallet, history⟩ := abreast.shown plain plain'
      obtain ⟨_, _, _, _, _, _, alike⟩ := abreast
      exact ⟨pairs, pairs.subset_refl, alike.ordered, .nil, wallet, history⟩
    | cons r' rs' ih =>
      have others : r'.user? ≠ some user := fun own => by
        rw [s'.dealings_own own] at asks
        cases asks
      rw [s'.dealings_other others] at asks
      obtain ⟨later, sub, fares⟩ := ih (abreast.after_right plain' others) asks
      exact ⟨later, sub, fares.other_right others⟩
  | cons r rs ih =>
    by_cases own : r.user? = some user
    · induction rs' generalizing w' with
      | nil =>
        rw [s.dealings_own own] at asks
        cases asks
      | cons r' rs' ih' =>
        by_cases own' : r'.user? = some user
        · rw [s.dealings_own own, s'.dealings_own own'] at asks
          cases asks with
          | cons head tail =>
            obtain ⟨next, sub, told, abreast⟩ :=
              abreast.serve plain plain' steady own head.request head.terms
            obtain ⟨later, sub', fares⟩ := ih abreast tail
            exact ⟨later, Pairs.subset_trans sub sub', fares.both own own' (told.mono sub')⟩
        · rw [s'.dealings_other own'] at asks
          obtain ⟨later, sub, fares⟩ := ih' (abreast.after_right plain' own') asks
          exact ⟨later, sub, fares.other_right own'⟩
    · rw [s.dealings_other own] at asks
      obtain ⟨later, sub, fares⟩ := ih (abreast.after_left plain own) asks
      exact ⟨later, sub, fares.other_left own⟩

end Runs

/-! ## Either store -/

/-- Services over a store, without a cache. -/
structure Services.Over {S : Type} (store : Store (StateM (World S)))
    (s : Services (StateM (World S))) : Prop where
  store : s.store = store
  uncached : s.cache = .absent

/-- Two runs of any requests begin over memory stores without a fault, at the same pace, or over
databases without guards, with a free pool and the same deadline. At the start there may be
different users, but neither wallets nor products nor entries. A user asks for the same in both
runs, and each purchase of the user finds its product live or not, with the same price and stock;
its identifier may be another one. Then the user fares alike: the answers, and the wallet and the
history in the end, are the same but for the joined identity record and for identifiers and times,
which belong together one to one, the times in the same order. -/
theorem users_are_isolated :
    (∀ {pace : Pace} {s s' : Services (StateM (World Memory))}, s.Over (Memory.store pace) →
      s'.Over (Memory.store pace) →
      ∀ {users users' : List User} {supply supply' : Supply} {shelf shelf' : Shelf}
        {goods : String → String → Prop} {user : String} {rs rs' : List Request},
      List.Forall₂ (Dealing.AsksLike goods)
        (s.dealings user rs ⟨⟨.opening users supply, none⟩, shelf⟩)
        (s'.dealings user rs' ⟨⟨.opening users' supply', none⟩, shelf'⟩) →
      ∃ pairs, s.FareAlike s' goods pairs user rs rs' ⟨⟨.opening users supply, none⟩, shelf⟩
        ⟨⟨.opening users' supply', none⟩, shelf'⟩) ∧
    ∀ {deadline : Option Duration} {s s' : Services (StateM (World Database))},
      s.Over ((Database.store deadline).map World.onStore) →
      s'.Over ((Database.store deadline).map World.onStore) →
      ∀ {rows rows' : List UserRow} {supply supply' : Supply} {enforced enforced' : Bool}
        {pool pool' : Pool} {shelf shelf' : Shelf}, pool.IsFree → pool'.IsFree →
      ∀ {goods : String → String → Prop} {user : String} {rs rs' : List Request},
      List.Forall₂ (Dealing.AsksLike goods)
        (s.dealings user rs ⟨.opening rows supply [] enforced pool, shelf⟩)
        (s'.dealings user rs' ⟨.opening rows' supply' [] enforced' pool', shelf'⟩) →
      ∃ pairs, s.FareAlike s' goods pairs user rs rs'
        ⟨.opening rows supply [] enforced pool, shelf⟩
        ⟨.opening rows' supply' [] enforced' pool', shelf'⟩ := by
  refine ⟨fun {pace s s'} runs runs' users users' supply supply' shelf shelf' goods user rs rs'
    asks => ?_, fun {deadline s s'} runs runs' rows rows' supply supply' enforced enforced' pool
    pool' shelf shelf' free free' goods user rs rs' asks => ?_⟩
  · have plain {s : Services (StateM (World Memory))} (runs : s.Over (Memory.store pace)) :=
      Plain.mk (runs.store ▸ Memory.store_regular pace) runs.uncached
    obtain ⟨pairs, -, fares⟩ := fare_alike (plain runs) (plain runs')
      (fun late late' => late.trans late'.symm)
      ⟨_, _, rfl, Books.opening_solvent .., rfl, Books.opening_solvent ..,
        .opening goods user users users' supply supply'⟩ asks
    exact ⟨pairs, fares⟩
  · have plain {s : Services (StateM (World Database))}
        (runs : s.Over ((Database.store deadline).map World.onStore)) :=
      Plain.mk (runs.store ▸ Database.store_regular deadline) runs.uncached
    have stage {rows : List UserRow} {supply : Supply} {enforced : Bool} {pool : Pool}
        (free : pool.IsFree) : Stage True (.opening rows supply [] enforced pool)
          (.opening (liveUsers rows) supply.inOrder) :=
      ⟨Database.opening_keeps .., fun _ => rfl, fun _ => free⟩
    obtain ⟨pairs, -, fares⟩ := fare_alike (plain runs) (plain runs')
      (fun late late' => late.trans late'.symm)
      ⟨_, _, stage free, Books.opening_solvent .., stage free', Books.opening_solvent ..,
        .opening goods user (liveUsers rows) (liveUsers rows') supply.inOrder supply'.inOrder⟩ asks
    exact ⟨pairs, fares⟩

/-- Of two users one is left out in the other run, and the product is made at another time. -/
theorem one_of_two_users_fares_alike :
    (∃ pairs, Services.FareAlike ⟨Memory.store .unlimited, .absent, ⟨0⟩⟩
      ⟨Memory.store .unlimited, .absent, ⟨0⟩⟩
      (fun p p' => p = Uuid.numbered 1 ∧ p' = Uuid.numbered 4) pairs "u"
      [.createProduct ⟨"Tea", "", ⟨300⟩, 5⟩, .initWallet "u", .deposit "u" ⟨1000⟩,
        .purchase "u" (Uuid.numbered 1) 2]
      [.initWallet "v", .initWallet "u", .deposit "v" ⟨500⟩,
        .createProduct ⟨"Mug", "", ⟨300⟩, 5⟩, .deposit "u" ⟨1000⟩, .withdraw "v" ⟨100⟩,
        .purchase "u" (Uuid.numbered 4) 2]
      ⟨⟨.opening [ada] .start, none⟩, .empty⟩ ⟨⟨.opening [] .start, none⟩, .empty⟩) ∧
    ∃ pairs, Services.FareAlike ⟨(Database.store none).map World.onStore, .absent, ⟨0⟩⟩
      ⟨(Database.store none).map World.onStore, .absent, ⟨0⟩⟩
      (fun p p' => p = Uuid.numbered 1 ∧ p' = Uuid.numbered 4) pairs "u"
      [.createProduct ⟨"Tea", "", ⟨300⟩, 5⟩, .initWallet "u", .deposit "u" ⟨1000⟩,
        .purchase "u" (Uuid.numbered 1) 2]
      [.initWallet "v", .initWallet "u", .deposit "v" ⟨500⟩,
        .createProduct ⟨"Mug", "", ⟨300⟩, 5⟩, .deposit "u" ⟨1000⟩, .withdraw "v" ⟨100⟩,
        .purchase "u" (Uuid.numbered 4) 2]
      ⟨.opening [⟨ada, false⟩] .start [] true ⟨4, ⟨0⟩, true, false⟩, .empty⟩
      ⟨.opening [] .start [] true ⟨4, ⟨0⟩, true, false⟩, .empty⟩ := by
  refine ⟨users_are_isolated.1 ⟨rfl, rfl⟩ ⟨rfl, rfl⟩ ?_,
    users_are_isolated.2 ⟨rfl, rfl⟩ ⟨rfl, rfl⟩ ⟨rfl, rfl⟩ ⟨rfl, rfl⟩ ?_⟩
  all_goals
    simp only [Services.dealings, Request.user?, Option.some.injEq, String.reduceEq, reduceCtorEq,
      ↓reduceIte]
    refine .cons ⟨.initWallet "u", show none = none from rfl⟩ (.cons ⟨.deposit "u" ⟨1000⟩,
      show none = none from rfl⟩ (.cons ⟨.purchase "u" ⟨rfl, rfl⟩ 2, ?_⟩ .nil))
    decide +kernel

end WalletLedger
