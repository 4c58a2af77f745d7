import WalletLedger.Database.Intervention
import WalletLedger.Proofs.Coherence
import WalletLedger.Proofs.Database.Contention
import WalletLedger.Proofs.Bounds
import WalletLedger.Proofs.Retries
import WalletLedger.Proofs.Services.Fulfilment

/-!
# Requests while the write lock is held

Another connection takes the write lock of a database and holds it for a
while. Requests that only read are answered as without the lock
(`serve_reads`); a movement with nothing wrong about it is refused for the
conflict, whatever rows there are, because its unit of work does not begin
(`serve_obstructed`); the other writes are refused by what they look at first,
as without the lock, or for the conflict where they come to write
(`serve_held_up`). In each case nothing is changed, so that what is requested
after the lock was given back is answered as if nothing had been requested in
the meantime (`lock_contention_is_transparent`).
-/

namespace WalletLedger

open Memory Database

/-! ## What is said of a request -/

/-- Whether a request only reads. -/
def Request.isRead : Request → Bool
  | .getWallet _ | .balance _ | .listWallets | .history _ | .listEntries | .listProducts
  | .getProduct _ => true
  | _ => false

theorem contention_tells : contention.TellsContention :=
  LedgerError.serializationConflict_tells _

/-- What becomes of a request in a world in which the write lock is held by
another connection, beside the same world with the lock free. -/
structure Services.Withstands (s : Services (StateM (World Database)))
    (free locked : World Database) (r : Request) : Prop where
  /-- Neither the rows nor the pool are changed, and the pool gives connections. -/
  untouched : (s.serve r locked).2 = locked
  usable : (s.serve r locked).2.store.pool.acquire = .ok ()
  /-- What only reads is answered as it is without the lock. -/
  read : r.isRead → (s.serve r locked).1 = (s.serve r free).1
  /-- A movement is refused for its own flaw, and for the conflict if it has none. -/
  flawed : ∀ (m : Movement) e, r = m.request → m.flaw? = some e →
    (s.serve r locked).1 = .error (.refused e)
  moved : ∀ m : Movement, r = m.request → m.flaw? = none →
    ∃ e, (s.serve r locked).1 = .error (.refused e) ∧ e.TellsContention
  /-- What may write is refused as it is without the lock, or for the conflict. -/
  written : ¬ r.isRead → ∃ e, (s.serve r locked).1 = .error (.refused e) ∧
    ((s.serve r free).1 = .error (.refused e) ∨ e.TellsContention)

/-! ## Locked worlds -/

section Locked

variable {α β : Type} {s : Services (StateM (World Database))} {free locked : World Database}
  {b : Books} {r : Request}

/-- Two worlds show the same books to whoever reads them, and in one of them
every write of the store meets the lock of another connection. -/
structure Obstructed (s : Services (StateM (World Database))) (free locked : World Database)
    (b : Books) : Prop where
  truthful : Truthful Database.manner (Readable True) s.store
  uncached : s.cache = .absent
  wellFormed : b.WellFormed
  there : Readable True free.store b
  here : Readable True locked.store b
  writes : ∀ call, ¬ call.isRead →
    s.store.perform none call locked = (.error (.refused contention), locked)

/-! ## Reads -/

/-- An attempt answers the same wherever the books are shown, and changes nothing. -/
def ReadsBooks (b : Books) (x : Attempt (StateM (World Database)) α) : Prop :=
  ∃ answer, ∀ w : World Database, Readable True w.store b → x w = (answer, w)

theorem ReadsBooks.map {x : Attempt (StateM (World Database)) α} (h : ReadsBooks b x) (f : α → β) :
    ReadsBooks b (f <$> x) := by
  obtain ⟨answer, tells⟩ := h
  refine ⟨answer.map f, fun w shown => ?_⟩
  rw [Attempt.map_apply, tells w shown]

theorem readsBooks_check {c : Validation.Check} {f : Unit → Attempt (StateM (World Database)) α}
    (h : ReadsBooks b (f ())) : ReadsBooks b (Services.check c >>= f) := by
  rcases c with e | _
  · exact ⟨.error (.refused (.validation e)), fun _ _ => rfl⟩
  · exact h

theorem readsBooks_view [Codec α] (uncached : s.cache = .absent) (key : String)
    {read : Attempt (StateM (World Database)) α} (h : ReadsBooks b read) (f : α → β) :
    ReadsBooks b (Outcome.map f <$> s.readThrough key read) := by
  obtain ⟨answer, tells⟩ := h.map (β := Outcome α) Outcome.ok
  refine ReadsBooks.map ⟨answer, fun w shown => ?_⟩ _
  have plain : s = { s with cache := .absent } := by rw [← uncached]
  rw [plain, readThrough_absent]
  exact tells w shown

theorem readsBooks_findWallet (h : Obstructed s free locked b) (user : String) :
    ReadsBooks b (s.findWallet user) :=
  ⟨_, fun _ shown => findWallet_apply h.truthful shown h.wellFormed user⟩

/-- A request that only reads is told the same wherever the books are shown. -/
theorem serve_reads (h : Obstructed s free locked b) (reads : r.isRead) :
    ReadsBooks b (s.serve r) := by
  have truthful := h.truthful
  have wf := h.wellFormed
  cases r with
  | getWallet user => exact ((readsBooks_findWallet h user).map _).map _
  | balance user => exact ((readsBooks_findWallet h user).map _).map _
  | listWallets =>
    exact readsBooks_view h.uncached _ ⟨_, fun _ shown => truthful.listWallets shown wf⟩ _
  | history user =>
    have told : ReadsBooks b (s.store.history (some s.limit) user) :=
      ⟨_, fun _ shown => truthful.history shown wf⟩
    exact (readsBooks_check (told.map Outcome.ok)).map _
  | listEntries =>
    exact readsBooks_view h.uncached _ ⟨_, fun _ shown => truthful.listEntries shown wf⟩ _
  | listProducts =>
    exact readsBooks_view h.uncached _ ⟨_, fun _ shown => truthful.listProducts shown wf⟩ _
  | getProduct id =>
    exact readsBooks_view h.uncached _ ⟨_, fun _ shown => truthful.existingProduct shown wf id⟩ _
  | _ => cases reads

/-! ## Writes -/

/-- A movement is refused for its flaw, or else because its unit of work cannot begin. -/
theorem serve_obstructed (h : Obstructed s free locked b) (m : Movement) :
    s.serve m.request locked = (.error (.refused (m.flaw?.getD contention)), locked) := by
  rcases flaw : m.flaw? with _ | e
  · exact serve_failed flaw (h.writes m.call m.call_writes)
  · exact serve_flawed flaw

/-- An attempt is refused in the locked world as in the free one, or for the conflict. -/
def HeldUp (free locked : World Database) (x : Attempt (StateM (World Database)) α) : Prop :=
  ∃ e, x locked = (.error (.refused e), locked) ∧
    ((x free).1 = .error (.refused e) ∨ e = contention)

theorem HeldUp.map {x : Attempt (StateM (World Database)) α} (h : HeldUp free locked x)
    (f : α → β) : HeldUp free locked (f <$> x) := by
  obtain ⟨e, refused, alike⟩ := h
  refine ⟨e, by rw [Attempt.map_apply, refused]; rfl, alike.imp_left fun there => ?_⟩
  rw [Attempt.map_apply, there]
  rfl

/-- A check refuses the same in both worlds. -/
theorem held_check {c : Validation.Check} {f : Unit → Attempt (StateM (World Database)) α}
    (h : HeldUp free locked (f ())) : HeldUp free locked (Services.check c >>= f) := by
  rcases c with e | _
  · exact ⟨.validation e, rfl, .inl rfl⟩
  · exact h

/-- What is looked up is the same in both worlds, and so is the refusal of it. -/
theorem held_found {x : Attempt (StateM (World Database)) α} {answer : Except Failure α}
    {f : α → Attempt (StateM (World Database)) β} (here : x locked = (answer, locked))
    (there : x free = (answer, free)) (runs : Runs answer)
    (h : ∀ a, answer = .ok a → HeldUp free locked (f a)) : HeldUp free locked (x >>= f) := by
  rcases answer with (e | cause) | a
  · refine ⟨e, by rw [Attempt.bind_apply, here], .inl ?_⟩
    rw [Attempt.bind_apply, there]
  · exact absurd (runs _ rfl) Bool.false_ne_true
  · obtain ⟨e, refused, alike⟩ := h a rfl
    refine ⟨e, by rw [Attempt.bind_apply, here]; exact refused, alike.imp_left fun same => ?_⟩
    rw [Attempt.bind_apply, there]
    exact same

/-- A write of the store meets the lock, whatever was to come after it. -/
theorem held_write (h : Obstructed s free locked b) (call : StoreCall) (writes : ¬ call.isRead)
    {x : Attempt (StateM (World Database)) α} {f : α → Reply}
    (eq : s.store.perform none call = f <$> x)
    (rest : α → Attempt (StateM (World Database)) β) : HeldUp free locked (x >>= rest) := by
  have met := h.writes call writes
  rw [eq, Attempt.map_apply] at met
  rcases run : x locked with ⟨e | a, w⟩ <;> rw [run] at met <;> cases met
  exact ⟨contention, by rw [Attempt.bind_apply, run], .inr rfl⟩

theorem held_existing (h : Obstructed s free locked b) (id : String)
    {f : Product → Attempt (StateM (World Database)) α}
    (rest : ∀ p, HeldUp free locked (f p)) : HeldUp free locked (s.existingProduct id >>= f) := by
  refine held_found (h.truthful.existingProduct h.here h.wellFormed id)
    (h.truthful.existingProduct h.there h.wellFormed id) ?_ fun p _ => rest p
  intro e failed
  unfold Books.existing at failed
  split at failed <;> cases failed
  rfl

/-- What may write is held up before it has written. -/
theorem serve_held_up (h : Obstructed s free locked b) (writes : ¬ r.isRead) :
    HeldUp free locked (s.serve r) := by
  have moves (m : Movement) : HeldUp free locked (s.serve m.request) := by
    refine ⟨_, serve_obstructed h m, ?_⟩
    rcases flaw : m.flaw? with _ | e
    · exact .inr rfl
    · exact .inl (congrArg Prod.fst (serve_flawed flaw))
  cases r with
  | deposit user amount => exact moves (.deposit user amount)
  | withdraw user amount => exact moves (.withdraw user amount)
  | purchase user id quantity => exact moves (.purchase user id quantity)
  | initWallet user =>
    refine HeldUp.map (held_check ?_) _
    refine held_found (h.truthful.walletByUser h.here h.wellFormed)
      (h.truthful.walletByUser h.there h.wellFormed) nofun fun found _ => ?_
    rcases found with _ | existing
    · exact held_write h (.createWallet user) nofun rfl _
    · exact ⟨.walletAlreadyExists existing, rfl, .inl rfl⟩
  | createProduct fields =>
    refine HeldUp.map (held_check ?_) _
    exact held_write h (.insertProduct fields) nofun rfl _
  | updateProduct id fields =>
    refine HeldUp.map (held_check (held_existing h id fun _ => ?_)) _
    exact held_write h (.updateProduct id fields) nofun rfl _
  | deleteProduct id =>
    refine HeldUp.map (held_existing h id fun _ => ?_) _
    exact held_write h (.deleteProduct id) nofun rfl _
  | _ => exact absurd rfl writes

theorem Obstructed.withstands (h : Obstructed s free locked b) (r : Request) :
    s.Withstands free locked r := by
  have alone : (s.serve r locked).2 = locked := by
    by_cases reads : r.isRead
    · obtain ⟨answer, tells⟩ := serve_reads h reads
      rw [tells locked h.here]
    · obtain ⟨e, refused, -⟩ := serve_held_up h reads
      rw [refused]
  refine ⟨alone, ?_, fun reads => ?_, ?_, ?_, fun writes => ?_⟩
  · rw [alone]
    exact h.here.acquired trivial
  · obtain ⟨answer, tells⟩ := serve_reads h reads
    rw [tells locked h.here, tells free h.there]
  · rintro m e rfl flaw
    rw [serve_flawed flaw]
  · rintro m rfl sound
    refine ⟨contention, ?_, contention_tells⟩
    rw [serve_obstructed h, sound]
    rfl
  · obtain ⟨e, refused, alike⟩ := serve_held_up h writes
    refine ⟨e, by rw [refused], alike.imp_right ?_⟩
    rintro rfl
    exact contention_tells

/-- Requests in a locked world leave it as it is. -/
theorem Obstructed.run (h : Obstructed s free locked b) (rs : List Request) :
    s.run rs locked = locked := by
  induction rs with
  | nil => rfl
  | cons r rs ih => exact (congrArg (s.run rs) (h.withstands r).untouched).trans ih

end Locked

/-! ## Holding the lock for a while -/

/-- The world after the connection that held the write lock gave it back. -/
def World.unlocked (w : World Database) : World Database :=
  { w with store := giveLockBack w.store }

/-- Another connection takes the write lock after some requests and gives it
back after others. Every request in between is withstood. Those that come later
are answered, and end, as if there had been nothing in between. -/
def Services.OutlastsLock (s : Services (StateM (World Database))) (start : World Database)
    (before during after : List Request) : Prop :=
  ∃ locked, World.onStore _ takeLock.attempt (s.run before start) = (.ok (), locked) ∧
    (∀ rs r, rs ++ [r] <+: during → s.Withstands (s.run before start) (s.run rs locked) r) ∧
    (s.run during locked).unlocked = s.run before start ∧
    s.answers (before ++ after) start =
      s.answers before start ++ s.answers after (s.run during locked).unlocked ∧
    s.run (before ++ after) start = s.run after (s.run during locked).unlocked

theorem answers_append {S : Type} (s : Services (StateM (World S))) (rs rs' : List Request)
    (w : World S) : s.answers (rs ++ rs') w = s.answers rs w ++ s.answers rs' (s.run rs w) := by
  induction rs generalizing w with
  | nil => rfl
  | cons r rs ih => exact congrArg _ (ih _)

/-- A database keeps its books and its pool through every call. -/
theorem faithful_in_pool (course : Course) (pool : Pool) :
    Faithful Database.manner (fun db b => Keeps db b ∧ db.pool = pool)
      ((storeOn course).map World.onStore) := by
  rintro limit call w b ⟨keeps, own⟩ wf
  have spec := store_faithful course limit call w b keeps wf
  have kept := (perform_pool course limit call w.store).trans own
  rw [perform_onStore] at spec ⊢
  unfold World.onStore at spec ⊢
  rcases run : (storeOn course).perform limit call w.store with ⟨e | reply, db⟩ <;>
    rw [run] at spec kept
  · exact ⟨⟨spec.1, kept⟩, spec.2⟩
  · obtain ⟨b', answered, keeps'⟩ := spec
    exact ⟨b', answered, keeps', kept⟩

/-- The other connection gets the lock, and a connection is left for the ledger. -/
theorem takeLock_ok {db : Database} (isOpen : db.pool.isOpen = true)
    (unlocked : db.pool.isLocked = false) (room : 2 ≤ db.pool.size) :
    takeLock.attempt db = (.ok (), { db with pool := { db.pool with isLocked := true } }) ∧
      db.pool.acquire = .ok () ∧
      ({ db.pool with isLocked := true } : Pool).acquire = .ok () := by
  have several : ¬ db.pool.size ≤ 0 := by omega
  have left : ¬ db.pool.size ≤ 1 := by omega
  have acquired : db.pool.acquire = .ok () := by
    simp [Pool.acquire, Pool.isExhausted, isOpen, unlocked, several]
  have free : db.pool.lockForWriting = .ok () := by simp [Pool.lockForWriting, unlocked]
  refine ⟨?_, acquired, by simp [Pool.acquire, Pool.isExhausted, isOpen, left]⟩
  have taken : takeLock.Meets True db
      (fun _ db' => db' = { db with pool := { db.pool with isLocked := true } }) fun _ => False :=
    Query.meets_bind (Query.meets_acquire (fun _ => acquired)
      (Query.meets_bind (Query.meets_lock (fun _ => free) (Query.meets_modify rfl))))
  unfold Query.Meets at taken
  unfold Query.attempt
  rcases run : takeLock db with e | ⟨_, db'⟩ <;> rw [run] at taken
  · exact (taken trivial).elim
  · rw [taken]

/-- While the lock is held, books are still shown, and every write is contended. -/
theorem obstructed_of_lock (course : Course) (limit : Duration) {free : World Database} {b : Books}
    (keeps : Keeps free.store b) (wf : b.WellFormed) (isOpen : free.store.pool.isOpen = true)
    (unlocked : free.store.pool.isLocked = false) (room : 2 ≤ free.store.pool.size) :
    ∃ locked, World.onStore _ takeLock.attempt free = (.ok (), locked) ∧
      locked.unlocked = free ∧
      Obstructed ⟨(storeOn course).map World.onStore, .absent, limit⟩ free locked b := by
  obtain ⟨taken, acquired, usable⟩ := takeLock_ok isOpen unlocked room
  let held : Database := { free.store with pool := { free.store.pool with isLocked := true } }
  have readable : Readable True held b :=
    ⟨⟨keeps.supply, keeps.users, keeps.wallets, keeps.products, keeps.entries⟩, fun _ => usable⟩
  refine ⟨⟨held, free.shelf⟩, ?_, ?_, store_truthful course, rfl, wf, ⟨keeps, fun _ => acquired⟩,
    readable, fun call writes => ?_⟩
  · simp only [World.onStore, taken, held]
  · simp only [World.unlocked, giveLockBack, held, ← unlocked]
  · show ((storeOn course).map World.onStore).perform none call ⟨held, free.shelf⟩ = _
    rw [perform_onStore]
    simp only [World.onStore, perform_contended readable rfl course none writes]

/-- On a database whose pool has two connections or more, without a cache,
another connection may hold the write lock at any time: what only reads is
answered as without the lock, movements with nothing wrong about them are
refused for a conflict that is worth a retry, the other writes as without the
lock or for such a conflict, nothing is changed, and later requests are
answered as if there had been none meanwhile. -/
theorem lock_contention_is_transparent (course : Course) (limit : Duration)
    (rows : List UserRow) (supply : Supply) (guards : List Guard) (enforced : Bool) {pool : Pool}
    (isOpen : pool.isOpen = true) (unlocked : pool.isLocked = false) (room : 2 ≤ pool.size)
    (shelf : Shelf) (before during after : List Request) :
    Services.OutlastsLock ⟨(storeOn course).map World.onStore, .absent, limit⟩
      ⟨.opening rows supply guards enforced pool, shelf⟩ before during after := by
  let s : Services (StateM (World Database)) := ⟨(storeOn course).map World.onStore, .absent, limit⟩
  let start : World Database := ⟨.opening rows supply guards enforced pool, shelf⟩
  have aside : s.cache.Aside := ⟨fun _ _ => rfl, fun _ _ _ => rfl, fun _ _ => rfl⟩
  have opened : Keeps start.store (.opening (liveUsers rows) supply.inOrder) ∧
      start.store.pool = pool := ⟨opening_keeps .., rfl⟩
  obtain ⟨b, ⟨keeps, own⟩, solvent, -⟩ := s.run_solvent (faithful_in_pool course pool) aside
    opened (Books.opening_solvent _ supply.inOrder) rfl before
  obtain ⟨locked, taken, given, obstructed⟩ :=
    obstructed_of_lock course limit keeps solvent.wellFormed (by rw [own, isOpen])
      (by rw [own, unlocked]) (by rw [own]; exact room)
  have restored : (s.run during locked).unlocked = s.run before start := by
    rw [obstructed.run during]
    exact given
  refine ⟨locked, taken, fun rs r _ => ?_, restored, ?_, ?_⟩
  · rw [obstructed.run rs]
    exact obstructed.withstands r
  · rw [restored]
    exact answers_append s before after _
  · rw [restored]
    exact List.foldl_append

/-- The lock is taken from a wallet that was filled, and another deposit goes
through when it was given back. -/
theorem lock_outlasted_between_deposits :
    (⟨4, ⟨0⟩, true, false⟩ : Pool).isOpen = true ∧
    (⟨4, ⟨0⟩, true, false⟩ : Pool).isLocked = false ∧
    2 ≤ (⟨4, ⟨0⟩, true, false⟩ : Pool).size ∧
    Services.OutlastsLock ⟨(storeOn .smooth).map World.onStore, .absent, ⟨0⟩⟩
      ⟨.opening [⟨ada, false⟩] .start [] true ⟨4, ⟨0⟩, true, false⟩, .empty⟩
      [.initWallet "u", .deposit "u" ⟨1000⟩] [.deposit "u" ⟨5⟩, .balance "u", .initWallet "v"]
      [.deposit "u" ⟨1000⟩, .history "u"] :=
  ⟨rfl, rfl, by decide,
    lock_contention_is_transparent .smooth ⟨0⟩ _ .start [] true rfl rfl (by decide) .empty _ _ _⟩

end WalletLedger
