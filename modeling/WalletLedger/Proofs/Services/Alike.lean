import WalletLedger.Codec.Identity
import WalletLedger.Proofs.Attempts
import WalletLedger.Proofs.Books.Bounds
import WalletLedger.Proofs.Services.Checks
import WalletLedger.Service.Request
import WalletLedger.World

/-!
# Services over two stores

Attempts over two stores are `Alike` when from related states they have the
same answer and end in related states. They may be compared through a `Veil`,
which leaves out of wallets what the services do not show. If the checked calls
of two stores are alike, so are all requests of services over them, through the
same veil (`serve_alikeThrough`) and without one (`serve_alike`), because the
services do nothing but put calls and the cache together.
-/

namespace WalletLedger

/-! ## Veils -/

/-- What is seen of wallets: all that is written of them, whose they are and how much they hold. -/
structure Veil where
  wallet : Wallet → Wallet
  encode : ∀ w, Codec.encode (wallet w) = Codec.encode w
  owner : ∀ w, (wallet w).userId = w.userId
  balance : ∀ w, (wallet w).balance = w.balance

namespace Veil

variable {α β : Type} (veil : Veil)

/-- Through this veil everything is seen. -/
def sheer : Veil := ⟨id, fun _ => rfl, fun _ => rfl, fun _ => rfl⟩

/-- What is seen of a failure. -/
def failure : Failure → Failure
  | .refused (.walletAlreadyExists w) => .refused (.walletAlreadyExists (veil.wallet w))
  | e => e

/-- What is seen of a reply. -/
def reply : Reply → Reply
  | .wallet w => .wallet (veil.wallet w)
  | .wallets ws => .wallets (ws.map veil.wallet)
  | r => r

/-- What is seen of an answer, of which a part is seen. -/
def answer (view : α → β) : Except Failure α → Except Failure β
  | .ok a => .ok (view a)
  | .error e => .error (veil.failure e)

theorem sheer_answer {view : α → α} (all : ∀ a, view a = a) (r : Except Failure α) :
    sheer.answer view r = r := by
  rcases r with e | a
  · refine congrArg Except.error ?_
    unfold failure
    split <;> rfl
  · exact congrArg Except.ok (all a)

theorem sheer_reply (r : Reply) : sheer.reply r = r := by
  cases r with
  | wallets ws => exact congrArg Reply.wallets (List.map_id ws)
  | _ => rfl

theorem answer_eq_cases {view : α → β} {r r' : Except Failure α}
    (same : veil.answer view r = veil.answer view r') :
    (∃ e e', r = .error e ∧ r' = .error e' ∧ veil.failure e = veil.failure e') ∨
      ∃ a a', r = .ok a ∧ r' = .ok a' ∧ view a = view a' := by
  rcases r with e | a <;> rcases r' with e' | a'
  · exact .inl ⟨e, e', rfl, rfl, Except.error.inj same⟩
  · cases same
  · cases same
  · exact .inr ⟨a, a', rfl, rfl, Except.ok.inj same⟩

theorem encode_map (ws : List Wallet) : Codec.encode (ws.map veil.wallet) = Codec.encode ws := by
  refine congrArg Json.array ?_
  rw [List.map_map]
  exact List.map_congr_left fun w _ => veil.encode w

theorem encode_list {ws ws' : List Wallet} (same : ws.map veil.wallet = ws'.map veil.wallet) :
    Codec.encode ws = Codec.encode ws' :=
  (veil.encode_map ws).symm.trans (same ▸ veil.encode_map ws')

end Veil

variable {S T α β γ δ : Type} {related : S → T → Prop} {veil : Veil}

/-- Two attempts have the same answer from related stores and equal caches, and
leave related stores and equal caches. -/
def Alike (related : S → T → Prop) (x : Attempt (StateM (World S)) α)
    (y : Attempt (StateM (World T)) α) : Prop :=
  ∀ w v, w.shelf = v.shelf → related w.store v.store →
    (x w).1 = (y v).1 ∧ (x w).2.shelf = (y v).2.shelf ∧ related (x w).2.store (y v).2.store

/-- Two attempts are alike as far as a view of their answers is seen through a veil. -/
def AlikeThrough (veil : Veil) (view : α → γ) (related : S → T → Prop)
    (x : Attempt (StateM (World S)) α) (y : Attempt (StateM (World T)) α) : Prop :=
  ∀ w v, w.shelf = v.shelf → related w.store v.store →
    veil.answer view (x w).1 = veil.answer view (y v).1 ∧
      (x w).2.shelf = (y v).2.shelf ∧ related (x w).2.store (y v).2.store

theorem alikeThrough_sheer_iff {view : α → α} (all : ∀ a, view a = a)
    {x : Attempt (StateM (World S)) α} {y : Attempt (StateM (World T)) α} :
    AlikeThrough .sheer view related x y ↔ Alike related x y := by
  simp only [AlikeThrough, Alike, Veil.sheer_answer all]

/-! ## Rules -/

theorem alike_pure {view : α → γ} {a a' : α} (same : view a = view a') :
    AlikeThrough veil view related (pure a) (pure a') :=
  fun _ _ shelves stores => ⟨congrArg Except.ok same, shelves, stores⟩

theorem alike_throw {view : α → γ} {e e' : Failure} (same : veil.failure e = veil.failure e') :
    AlikeThrough veil view related (throw e) (throw e') :=
  fun _ _ shelves stores => ⟨congrArg Except.error same, shelves, stores⟩

theorem AlikeThrough.bind {view : α → γ} {view' : β → δ} {x : Attempt (StateM (World S)) α}
    {y : Attempt (StateM (World T)) α} {f : α → Attempt (StateM (World S)) β}
    {g : α → Attempt (StateM (World T)) β} (hx : AlikeThrough veil view related x y)
    (hf : ∀ a a', view a = view a' → AlikeThrough veil view' related (f a) (g a')) :
    AlikeThrough veil view' related (x >>= f) (y >>= g) := by
  intro w v shelves stores
  obtain ⟨answers, shelves', stores'⟩ := hx w v shelves stores
  rw [Attempt.bind_apply, Attempt.bind_apply]
  rcases hw : x w with ⟨r, w'⟩
  rcases hv : y v with ⟨r', v'⟩
  rw [hw, hv] at answers shelves' stores'
  rcases veil.answer_eq_cases answers with ⟨e, e', rfl, rfl, same⟩ | ⟨a, a', rfl, rfl, same⟩
  · exact ⟨congrArg Except.error same, shelves', stores'⟩
  · exact hf a a' same w' v' shelves' stores'

theorem AlikeThrough.map {view : α → γ} {view' : β → δ} {f : α → β}
    (keeps : ∀ a a', view a = view a' → view' (f a) = view' (f a'))
    {x : Attempt (StateM (World S)) α} {y : Attempt (StateM (World T)) α}
    (hx : AlikeThrough veil view related x y) :
    AlikeThrough veil view' related (f <$> x) (f <$> y) := by
  intro w v shelves stores
  rw [Attempt.map_apply, Attempt.map_apply]
  obtain ⟨answers, rest⟩ := hx w v shelves stores
  refine ⟨?_, rest⟩
  rcases veil.answer_eq_cases answers with ⟨e, e', hw, hv, same⟩ | ⟨a, a', hw, hv, same⟩
  · rw [hw, hv]
    exact congrArg Except.error same
  · rw [hw, hv]
    exact congrArg Except.ok (keeps a a' same)

theorem alike_orRefuse {view : α → γ} (e : LedgerError) {a a' : Option α}
    (same : a.map view = a'.map view) :
    AlikeThrough veil view related (Services.orRefuse e a) (Services.orRefuse e a') := by
  rcases a with _ | a <;> rcases a' with _ | a'
  · exact alike_throw rfl
  · cases same
  · cases same
  · exact alike_pure (Option.some.inj same)

theorem alike_check {view : β → δ} {c : Validation.Check}
    {f : Unit → Attempt (StateM (World S)) β} {g : Unit → Attempt (StateM (World T)) β}
    (h : c = .ok () → AlikeThrough veil view related (f ()) (g ())) :
    AlikeThrough veil view related (Services.check c >>= f) (Services.check c >>= g) := by
  rcases c with e | _
  · exact alike_throw rfl
  · exact h rfl

theorem alike_require {view : β → δ} {c : Except LedgerError Unit}
    {f : Unit → Attempt (StateM (World S)) β} {g : Unit → Attempt (StateM (World T)) β}
    (h : c = .ok () → AlikeThrough veil view related (f ()) (g ())) :
    AlikeThrough veil view related (Services.require c >>= f) (Services.require c >>= g) := by
  rcases c with e | _
  · exact alike_throw rfl
  · exact h rfl

/-- The same computation on the caches. -/
theorem alike_onShelf (x : StateM Shelf α) :
    AlikeThrough veil id related (liftM (World.onShelf α x : StateM (World S) α))
      (liftM (World.onShelf α x : StateM (World T) α)) := by
  intro w v shelves stores
  rw [Attempt.lift_apply, Attempt.lift_apply]
  simp only [World.onShelf, shelves, true_and]
  exact stores

/-! ## Calls and views -/

/-- The checked calls of two stores are alike. -/
def AlikeStores (related : S → T → Prop) (s : Store (StateM (World S)))
    (t : Store (StateM (World T))) : Prop :=
  ∀ limit call, call.Checked → Alike related (s.perform limit call) (t.perform limit call)

/-- The checked calls of two stores are alike through a veil. -/
def AlikeStoresThrough (veil : Veil) (related : S → T → Prop) (s : Store (StateM (World S)))
    (t : Store (StateM (World T))) : Prop :=
  ∀ limit call, call.Checked →
    AlikeThrough veil veil.reply related (s.perform limit call) (t.perform limit call)

/-- What answers with replies is alike in a view that the replies show. -/
theorem AlikeStoresThrough.call {s : Store (StateM (World S))} {t : Store (StateM (World T))}
    (h : AlikeStoresThrough veil related s t) (limit : Option Duration) (call : StoreCall)
    (checked : call.Checked) {f : α → Reply} {view : α → γ}
    {x : Attempt (StateM (World S)) α} {y : Attempt (StateM (World T)) α}
    (hs : s.perform limit call = f <$> x) (ht : t.perform limit call = f <$> y)
    (shows : ∀ a b, veil.reply (f a) = veil.reply (f b) → view a = view b) :
    AlikeThrough veil view related x y := by
  intro w v shelves stores
  obtain ⟨answers, rest⟩ := h limit call checked w v shelves stores
  rw [hs, ht, Attempt.map_apply, Attempt.map_apply] at answers rest
  refine ⟨?_, rest⟩
  rcases hw : (x w).1 with e | a <;> rcases hv : (y v).1 with e' | a' <;> rw [hw, hv] at answers
  · exact congrArg Except.error (Except.error.inj answers)
  · cases answers
  · cases answers
  · exact congrArg Except.ok (shows a a' (Except.ok.inj answers))

variable {s : Services (StateM (World S))} {t : Services (StateM (World T))}

/-- Services over two stores with the same cache and limit. -/
structure AlikeServices (related : S → T → Prop) (s : Services (StateM (World S)))
    (t : Services (StateM (World T))) : Prop where
  store : AlikeStores related s.store t.store
  cache : ∃ c : Cache (StateM Shelf), s.cache = c.map World.onShelf ∧ t.cache = c.map World.onShelf
  limit : s.limit = t.limit

/-- Services over two stores that are alike through a veil, with the same cache and limit. -/
structure AlikeServicesThrough (veil : Veil) (related : S → T → Prop)
    (s : Services (StateM (World S))) (t : Services (StateM (World T))) : Prop where
  store : AlikeStoresThrough veil related s.store t.store
  cache : ∃ c : Cache (StateM Shelf), s.cache = c.map World.onShelf ∧ t.cache = c.map World.onShelf
  limit : s.limit = t.limit

theorem forM_onShelf (c : Cache (StateM Shelf)) (keys : List String) :
    (keys.forM (c.map World.onShelf : Cache (StateM (World S))).delete : StateM (World S) Unit) =
      World.onShelf _ (keys.forM c.delete) := by
  induction keys with
  | nil => rfl
  | cons key keys ih =>
    show ((c.map World.onShelf : Cache (StateM (World S))).delete key >>= fun _ =>
      keys.forM (c.map World.onShelf : Cache (StateM (World S))).delete) = _
    rw [ih]
    rfl

theorem alike_forget (h : AlikeServicesThrough veil related s t) (keys : List String) :
    AlikeThrough veil id related (liftM (s.forget keys)) (liftM (t.forget keys)) := by
  obtain ⟨c, hs, ht⟩ := h.cache
  unfold Services.forget
  rw [hs, ht, forM_onShelf, forM_onShelf]
  exact alike_onShelf _

theorem alike_readThrough [Codec α] (h : AlikeServicesThrough veil related s t) (key : String)
    {view : α → γ} (written : ∀ a a', view a = view a' → Codec.encode a = Codec.encode a')
    {x : Attempt (StateM (World S)) α} {y : Attempt (StateM (World T)) α}
    (hx : AlikeThrough veil view related x y) :
    AlikeThrough veil (Outcome.map view) related (s.readThrough key x) (t.readThrough key y) := by
  obtain ⟨c, hs, ht⟩ := h.cache
  unfold Services.readThrough
  rw [hs, ht]
  refine AlikeThrough.bind (alike_onShelf (c.find key)) fun found _ same => ?_
  cases same
  cases found with
  | some a => exact alike_pure rfl
  | none =>
    refine hx.bind fun a a' same => ?_
    have text : Codec.write a = Codec.write a' := congrArg Json.toText (written a a' same)
    have puts : (c.map World.onShelf : Cache (StateM (World T))).put key a' =
        (c.map World.onShelf : Cache (StateM (World T))).put key a := by
      simp only [Cache.put, text]
    rw [puts]
    exact (alike_onShelf (c.put key a)).bind fun _ _ _ => alike_pure (congrArg Outcome.ok same)

/-! ## Requests -/

theorem Reply.ofOption_distinct {f : α → Reply} (distinct : ∀ a b, f a = f b → a = b)
    (some_reply : ∀ a, f a ≠ .nothing) (a b : Option α)
    (h : Reply.ofOption f a = Reply.ofOption f b) : a = b := by
  rcases a with _ | a <;> rcases b with _ | b
  · rfl
  · exact absurd h.symm (some_reply b)
  · exact absurd h (some_reply a)
  · exact congrArg some (distinct a b h)

/-- What may be missing is seen alike when the replies are. -/
theorem ofOption_seen {f : α → Reply} {view : α → γ}
    (shows : ∀ a b, veil.reply (f a) = veil.reply (f b) → view a = view b)
    (some_reply : ∀ a, veil.reply (f a) ≠ .nothing) (a b : Option α)
    (same : veil.reply (.ofOption f a) = veil.reply (.ofOption f b)) : a.map view = b.map view := by
  rcases a with _ | a <;> rcases b with _ | b
  · rfl
  · exact absurd same.symm (some_reply b)
  · exact absurd same (some_reply a)
  · exact congrArg some (shows a b same)

/-- Outcomes are seen alike when their data are. -/
theorem outcome_seen {view : α → γ} {f : α → β} {view' : β → δ}
    (keeps : ∀ a a', view a = view a' → view' (f a) = view' (f a')) (o o' : Outcome α)
    (same : o.map view = o'.map view) : (o.map f).map view' = (o'.map f).map view' := by
  obtain ⟨status, a⟩ := o
  obtain ⟨status', a'⟩ := o'
  obtain ⟨rfl, data⟩ := Outcome.mk.inj same
  exact congrArg (Outcome.mk status) (keeps a a' data)

theorem alike_walletByUser (h : AlikeServicesThrough veil related s t) (user : String) :
    AlikeThrough veil (Option.map veil.wallet) related (s.store.walletByUser (some s.limit) user)
      (t.store.walletByUser (some t.limit) user) := by
  rw [h.limit]
  exact h.store.call _ (.walletByUser user) trivial rfl rfl
    (ofOption_seen (fun _ _ => Reply.wallet.inj) fun _ => nofun)

theorem alike_existingProduct (h : AlikeServicesThrough veil related s t) (product : String) :
    AlikeThrough veil id related (s.existingProduct product) (t.existingProduct product) := by
  unfold Services.existingProduct
  rw [h.limit]
  split
  · exact alike_throw rfl
  · have read : AlikeThrough veil (Option.map id) related
        (s.store.productById (some t.limit) product) (t.store.productById (some t.limit) product) :=
      h.store.call _ (.productById product) trivial rfl rfl
        (ofOption_seen (fun _ _ => Reply.product.inj) fun _ => nofun)
    exact read.bind fun _ _ same => alike_orRefuse _ same

theorem alike_findWallet (h : AlikeServicesThrough veil related s t) (user : String) :
    AlikeThrough veil veil.wallet related (s.findWallet user) (t.findWallet user) :=
  alike_check fun _ => (alike_walletByUser h user).bind fun _ _ same => alike_orRefuse _ same

theorem alike_committed (h : AlikeServicesThrough veil related s t)
    {x : Attempt (StateM (World S)) Entry} {y : Attempt (StateM (World T)) Entry}
    (hx : AlikeThrough veil id related x y) :
    AlikeThrough veil (Outcome.map id) related (x >>= s.committed) (y >>= t.committed) := by
  refine hx.bind fun e e' same => ?_
  obtain rfl : e = e' := same
  exact (alike_forget h _).bind fun _ _ _ => alike_pure rfl

/-- A change of the catalog. -/
theorem alike_changed (h : AlikeServicesThrough veil related s t) (status : Status)
    (keys : List String) {x : Attempt (StateM (World S)) α} {y : Attempt (StateM (World T)) α}
    (hx : AlikeThrough veil id related x y) :
    AlikeThrough veil (Outcome.map id) related
      (do let a ← x; s.forget keys; return ⟨status, a⟩)
      (do let a ← y; t.forget keys; return ⟨status, a⟩) := by
  refine hx.bind fun a a' same => ?_
  obtain rfl : a = a' := same
  exact (alike_forget h keys).bind fun _ _ _ => alike_pure rfl

theorem alike_initWallet (h : AlikeServicesThrough veil related s t) (user : String) :
    AlikeThrough veil (Outcome.map veil.wallet) related (s.initWallet user)
      (t.initWallet user) := by
  refine alike_check fun _ => (alike_walletByUser h user).bind fun found found' same => ?_
  rcases found with _ | w <;> rcases found' with _ | w'
  · have made : AlikeThrough veil veil.wallet related (s.store.createWallet user)
        (t.store.createWallet user) :=
      h.store.call none (.createWallet user) trivial rfl rfl fun _ _ => Reply.wallet.inj
    refine made.bind fun _ _ _ => (alike_walletByUser h user).bind fun found found' same => ?_
    refine (alike_orRefuse _ same).bind fun w w' same => ?_
    exact (alike_forget h _).bind fun _ _ _ => alike_pure (congrArg Outcome.created same)
  · cases same
  · cases same
  · exact alike_throw (congrArg (fun w => Failure.refused (.walletAlreadyExists w))
      (Option.some.inj same))

/-- An outcome is told as a reply. -/
theorem alike_told {view : α → γ} {x : Attempt (StateM (World S)) (Outcome α)}
    {y : Attempt (StateM (World T)) (Outcome α)}
    (h : AlikeThrough veil (Outcome.map view) related x y) {f : α → Reply}
    (tells : ∀ a a', view a = view a' → veil.reply (f a) = veil.reply (f a')) :
    AlikeThrough veil (Outcome.map veil.reply) related (Outcome.map f <$> x)
      (Outcome.map f <$> y) :=
  h.map (outcome_seen tells)

theorem alike_movement (h : AlikeServicesThrough veil related s t) (user : String)
    {rule : Except LedgerError Unit} {x : Attempt (StateM (World S)) Entry}
    {y : Attempt (StateM (World T)) Entry}
    (alike : rule = .ok () → AlikeThrough veil id related x y) :
    AlikeThrough veil (Outcome.map veil.reply) related
      (Outcome.map Reply.entry <$> (do
        Services.check (Validation.userId user)
        Services.require rule
        s.committed (← x)))
      (Outcome.map Reply.entry <$> (do
        Services.check (Validation.userId user)
        Services.require rule
        t.committed (← y))) := by
  refine alike_told (alike_check fun _ => alike_require fun valid => ?_) fun _ _ =>
    congrArg Reply.entry
  exact alike_committed h (alike valid)

/-- Every request is alike, through a veil, over two stores whose checked calls are. -/
theorem serve_alikeThrough (h : AlikeServicesThrough veil related s t) (r : Request) :
    AlikeThrough veil (Outcome.map veil.reply) related (s.serve r) (t.serve r) := by
  cases r with
  | initWallet user => exact alike_told (alike_initWallet h user) fun _ _ => congrArg Reply.wallet
  | getWallet user =>
    have found : AlikeThrough veil (Outcome.map veil.wallet) related (s.getWallet user)
        (t.getWallet user) := by
      refine AlikeThrough.map ?_ (alike_findWallet h user)
      exact fun _ _ => congrArg Outcome.ok
    exact alike_told found fun _ _ => congrArg Reply.wallet
  | balance user =>
    have found : AlikeThrough veil (Outcome.map id) related (s.balance user) (t.balance user) := by
      refine (alike_findWallet h user).map fun w w' same => ?_
      show Outcome.ok w.balance = Outcome.ok w'.balance
      rw [← veil.balance w, same, veil.balance]
    exact alike_told found fun _ _ => congrArg Reply.money
  | listWallets =>
    refine alike_told (alike_readThrough h _ ?_ ?_) fun _ _ => congrArg Reply.wallets
    · exact fun _ _ => veil.encode_list
    · rw [h.limit]
      exact h.store.call _ .listWallets trivial rfl rfl fun _ _ => Reply.wallets.inj
  | deposit user amount =>
    exact alike_movement h user fun valid => h.store.call none (.deposit user amount)
      (positive_of_amount valid) rfl rfl fun _ _ => Reply.entry.inj
  | withdraw user amount =>
    exact alike_movement h user fun valid => h.store.call none (.withdraw user amount)
      (positive_of_amount valid) rfl rfl fun _ _ => Reply.entry.inj
  | purchase user id quantity =>
    exact alike_movement h user fun valid => h.store.call none (.purchase user id quantity)
      (positive_of_quantity valid) rfl rfl fun _ _ => Reply.entry.inj
  | history user =>
    have found : AlikeThrough veil (Outcome.map id) related (s.history user) (t.history user) := by
      have read : AlikeThrough veil id related (s.store.history (some s.limit) user)
          (t.store.history (some t.limit) user) := by
        rw [h.limit]
        exact h.store.call _ (.history user) trivial rfl rfl fun _ _ => Reply.entries.inj
      refine alike_check fun _ => AlikeThrough.map ?_ read
      exact fun _ _ => congrArg Outcome.ok
    exact alike_told found fun _ _ => congrArg Reply.entries
  | listEntries =>
    refine alike_told (alike_readThrough h _ (fun _ _ => congrArg Codec.encode) ?_) fun _ _ =>
      congrArg Reply.entries
    rw [h.limit]
    exact h.store.call _ .listEntries trivial rfl rfl fun _ _ => Reply.entries.inj
  | listProducts =>
    refine alike_told (alike_readThrough h _ (fun _ _ => congrArg Codec.encode) ?_) fun _ _ =>
      congrArg Reply.products
    rw [h.limit]
    exact h.store.call _ .listProducts trivial rfl rfl fun _ _ => Reply.products.inj
  | getProduct id =>
    exact alike_told (alike_readThrough h _ (fun _ _ => congrArg Codec.encode)
      (alike_existingProduct h id)) fun _ _ => congrArg Reply.product
  | createProduct p =>
    refine alike_told (alike_check fun valid => alike_changed h .created _ ?_) fun _ _ =>
      congrArg Reply.product
    exact h.store.call none (.insertProduct p) (bounds_of_newProduct valid) rfl rfl
      fun _ _ => Reply.product.inj
  | updateProduct id p =>
    refine alike_told (alike_check fun valid => (alike_existingProduct h id).bind fun _ _ _ =>
      alike_changed h .ok _ ?_) fun _ _ => congrArg Reply.product
    exact h.store.call none (.updateProduct id p) (bounds_of_newProduct valid) rfl rfl
      fun _ _ => Reply.product.inj
  | deleteProduct id =>
    refine alike_told ((alike_existingProduct h id).bind fun _ _ _ => alike_changed h .ok _ ?_)
      fun _ _ _ => rfl
    exact h.store.call none (.deleteProduct id) trivial rfl rfl fun _ _ _ => rfl

/-- Every request is alike over two stores whose checked calls are. -/
theorem serve_alike (h : AlikeServices related s t) (r : Request) :
    Alike related (s.serve r) (t.serve r) := by
  have through : AlikeServicesThrough .sheer related s t :=
    ⟨fun limit call checked => (alikeThrough_sheer_iff Veil.sheer_reply).mpr
      (h.store limit call checked), h.cache, h.limit⟩
  have seen (o : Outcome Reply) : o.map Veil.sheer.reply = o :=
    congrArg (Outcome.mk o.status) (Veil.sheer_reply o.data)
  exact (alikeThrough_sheer_iff seen).mp (serve_alikeThrough through r)

end WalletLedger
