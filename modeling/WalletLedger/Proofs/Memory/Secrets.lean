import WalletLedger.Proofs.Memory.Store
import WalletLedger.Proofs.Services.Secrets

/-!
# Secrets in a memory store

Two memory stores that are the same but for password hashes answer every call
alike, as far as it is seen through `Veil.secrets`, and stay the same but for
hashes (`perform_discreet`): writes ignore identity records, and reads show no
more of them than what they join to wallets. They also stay so when users are
registered whose hashes differ (`insertUser_discreet`).
-/

namespace WalletLedger

namespace Memory

/-! ## The books -/

namespace Books

variable (b : Books)

/-- The books without the secrets of users. -/
def withoutSecrets : Books :=
  b.withUsers (b.users.map User.withoutSecret)

theorem user?_withoutSecrets (id : String) :
    b.withoutSecrets.user? id = (b.user? id).map User.withoutSecret :=
  List.find?_map

theorem joined_withoutSecrets (w : Wallet) :
    b.withoutSecrets.joined w = (b.joined w).withoutSecret := by
  unfold joined
  rw [user?_withoutSecrets]
  rfl

theorem listWallets_withoutSecrets :
    b.withoutSecrets.listWallets = b.listWallets.map Wallet.withoutSecret := by
  have joined : (b.supply.source.walletOrder b.wallets).map b.withoutSecrets.joined =
      ((b.supply.source.walletOrder b.wallets).map b.joined).map Wallet.withoutSecret := by
    rw [List.map_map]
    exact List.map_congr_left fun w _ => b.joined_withoutSecrets w
  show ((b.supply.source.walletOrder b.wallets).map b.withoutSecrets.joined).mergeSort _ = _
  rw [joined]
  exact (oldestFirst_withoutSecret _).symm

/-- What is read without secrets is what is seen of what is read. -/
theorem answer_withoutSecrets (call : StoreCall) :
    b.withoutSecrets.answer call = Veil.secrets.reply (b.answer call) := by
  cases call with
  | walletByUser user =>
    show Reply.ofOption .wallet ((b.wallet? user).map b.withoutSecrets.joined) =
      Veil.secrets.reply (.ofOption .wallet ((b.wallet? user).map b.joined))
    rcases b.wallet? user with _ | w
    · rfl
    · exact congrArg Reply.wallet (b.joined_withoutSecrets w)
  | listWallets => exact congrArg Reply.wallets b.listWallets_withoutSecrets
  | productById id =>
    show Reply.ofOption .product (b.product? id) =
      Veil.secrets.reply (.ofOption .product (b.product? id))
    cases b.product? id <;> rfl
  | _ => rfl

theorem putUser_withoutSecrets (u : User) :
    (b.putUser u).withoutSecrets = b.withoutSecrets.putUser u.withoutSecret := by
  simp only [withoutSecrets, withUsers, putUser, List.map_append, List.filter_map]
  rfl

end Books

/-! ## The store -/

/-- The identity records of a store. -/
def identities : Part Memory (List User) where
  get m := m.books.users
  put users m := { m with books := m.books.withUsers users }
  put_get _ := rfl
  get_put _ _ := rfl
  put_put _ _ _ := rfl

end Memory

/-- The store without the secrets of users. -/
def Memory.withoutSecrets (m : Memory) : Memory :=
  Memory.identities.change (List.map User.withoutSecret) m

namespace Memory

variable {α : Type} {pace : Pace} {limit : Option Duration} {call : StoreCall}

theorem write_ignores {work : Work α} (h : work.IgnoresUsers) :
    Ignores identities (write pace work).alone := by
  intro users w
  have attempt : work.attempt (identities.put users w.store) = _ :=
    h w.store.books w.store.fault users
  rcases run : work w.store.books w.store.fault with ⟨e | ⟨a, books⟩, fault⟩ <;>
    rw [run] at attempt
  · replace run : work.attempt w.store = (.error e, fault) := run
    replace attempt : work.attempt (identities.put users w.store) = (.error e, fault) := attempt
    rcases deadline : pace.deadline <;>
      simp only [write, deadline, Routine.alone, Turn.isQuick, run, attempt] <;> rfl
  · replace run : work.attempt w.store = (.ok (a, books), fault) := run
    replace attempt : work.attempt (identities.put users w.store) =
      (.ok (a, books.withUsers users), fault) := attempt
    rcases deadline : pace.deadline with _ | limit
    · simp only [write, deadline, Routine.alone, Turn.isQuick, run, attempt]
      rfl
    · simp only [write, deadline, Routine.alone, Turn.isQuick, run, attempt, Option.map_some]
      cases decide (pace.latency.ticks ≤ limit.ticks) <;> rfl

theorem perform_discreet : Discreet withoutSecrets Veil.secrets.reply
    ((store pace).perform limit call) ((store pace).perform limit call) := by
  rw [perform_eq_alone]
  by_cases reads : call.isRead
  · rw [perform_read pace limit reads]
    intro w v shelves stores
    rw [read_alone, read_alone]
    refine ⟨congrArg Except.ok ?_, shelves, stores⟩
    rw [← Books.answer_withoutSecrets, ← Books.answer_withoutSecrets]
    exact congrArg (fun m : Memory => m.books.answer call) stores
  · rw [perform_write pace limit reads]
    exact (write_ignores (Work.unit_ignoresUsers reads)).alike _

/-- The store after an identity record was registered. -/
def registered (u : User) (m : Memory) : Memory :=
  { m with books := m.books.putUser u }

theorem insertUser_alone (u : User) (w : World Memory) :
    (insertUser u).alone w = (.ok (), { w with store := w.store.registered u }) := rfl

theorem registered_withoutSecrets (u : User) (m : Memory) :
    (m.registered u).withoutSecrets = m.withoutSecrets.registered u.withoutSecret :=
  congrArg (fun books => { m with books }) (Books.putUser_withoutSecrets _ _)

theorem insertUser_discreet {u u' : User} (same : u.withoutSecret = u'.withoutSecret) :
    Discreet withoutSecrets id (insertUser u).alone (insertUser u').alone := by
  intro w v shelves stores
  rw [insertUser_alone, insertUser_alone]
  refine ⟨rfl, shelves, ?_⟩
  show (w.store.registered u).withoutSecrets = (v.store.registered u').withoutSecrets
  rw [registered_withoutSecrets, registered_withoutSecrets, same, stores]

end Memory

end WalletLedger
