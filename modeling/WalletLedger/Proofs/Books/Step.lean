import WalletLedger.Proofs.Books.Rows
import WalletLedger.Store.Call
import WalletLedger.Text.Blank

/-!
# Steps of the books

What an answered call does to the books of a store (`Step`): a read does
nothing, and each write changes the rows it is about, under the next identifier
and the times that the clock shows next. The arithmetic is exact: a step exists
only where the new balance and the new stock fit. How often the clock is looked
at differs from one store to another: a step of a purchase writes the product
under the time of the wallet or a later one, and a step of a deletion may look
at the clock without any use. Every step keeps the books well formed
(`Step.wellFormed`).
-/

namespace WalletLedger

/-- Whether a call only reads. -/
def StoreCall.isRead : StoreCall → Bool
  | .walletByUser _ | .listWallets | .listProducts | .productById _ | .history _
  | .listEntries => true
  | _ => false

/-- What a read answers from the books. -/
def Memory.Books.answer (b : Memory.Books) : StoreCall → Reply
  | .walletByUser user => .ofOption .wallet ((b.wallet? user).map b.joined)
  | .listWallets => .wallets b.listWallets
  | .listProducts => .products b.listProducts
  | .productById id => .ofOption .product (b.product? id)
  | .history user => .entries (b.history user)
  | .listEntries => .entries b.listEntries
  | _ => .nothing

/-- What an entry adds to the balance of its wallet, exactly. -/
def EntryKind.effect : EntryKind → Int
  | .deposit a => a.value
  | .withdraw a | .purchase _ _ a => -a.value

/-- A product after its fields were set. -/
def Product.revised (p : Product) (fields : NewProduct) (time : Timestamp) : Product :=
  { p with
    name := Text.strip fields.name, description := fields.description, price := fields.price
    stock := fields.stock, updatedAt := time }

namespace Memory.Books

/-- The books after something was taken from their supply. -/
def spend (b : Books) (ids looks : Nat) : Books := { b with supply := b.supply.spend ids looks }

/-- The time that the clock shows after a number of looks at it. -/
def instant (b : Books) (look : Nat) : Timestamp := b.supply.source.instant (b.supply.looks + look)

/-- The next identifier, and the time that the clock shows next. -/
def next (b : Books) : Stamp := b.supply.next

/-- The wallet that the next change makes. -/
def newWallet (b : Books) (user : String) : Wallet :=
  ⟨b.next.id, user, Money.zero, b.next.time, b.next.time, none⟩

/-- The product that the next change makes. -/
def newProduct (b : Books) (p : NewProduct) : Product :=
  ⟨b.next.id, Text.strip p.name, p.description, p.price, p.stock, b.next.time, b.next.time⟩

/-- The entry that the next change commits, after a number of looks at the clock. -/
def newEntry (b : Books) (walletId : String) (kind : EntryKind) (look : Nat) : Entry :=
  ⟨b.next.id, walletId, kind, b.instant look⟩

/-- The books with a new wallet. -/
def addWallet (b : Books) (w : Wallet) : Books := { b with wallets := b.wallets ++ [w] }

/-- The books with a new product. -/
def addProduct (b : Books) (p : Product) : Books :=
  { b with articles := b.articles ++ [⟨p, false⟩] }

/-- The books with a new entry. -/
def addEntry (b : Books) (e : Entry) : Books := { b with entries := b.entries ++ [e] }

/-- The books with the balance of a user written. -/
def setBalance (b : Books) (user : String) (balance : Money) (time : Timestamp) : Books :=
  b.setWallet user fun w => { w with balance, updatedAt := time }

/-- The books with the stock of a product written. -/
def setStock (b : Books) (id : String) (stock : Int64) (time : Timestamp) : Books :=
  b.setArticle id fun a => { a with product := { a.product with stock, updatedAt := time } }

/-- The books with an entry committed that moves a balance: the wallet is written under the
next time, and the entry after a number of looks at the clock, which is the last. -/
def post (b : Books) (user walletId : String) (balance : Money) (kind : EntryKind)
    (look : Nat) : Books :=
  ((b.spend 1 (look + 1)).setBalance user balance b.next.time).addEntry
    (b.newEntry walletId kind look)

/-- The books after an answered call, and the answer to it. -/
inductive Step (b : Books) : StoreCall → Reply → Books → Prop
  | read {call : StoreCall} (reads : call.isRead) : Step b call (b.answer call) b
  | createWallet {user : String} (vacant : b.wallet? user = none) :
    Step b (.createWallet user) (.wallet (b.newWallet user))
      ((b.spend 1 1).addWallet (b.newWallet user))
  | insertProduct {fields : NewProduct} :
    Step b (.insertProduct fields) (.product (b.newProduct fields))
      ((b.spend 1 1).addProduct (b.newProduct fields))
  | updateProduct {id : String} {fields : NewProduct} {p : Product}
      (live : b.product? id = some p) :
    Step b (.updateProduct id fields) (.product (p.revised fields b.next.time))
      ((b.spend 0 1).setArticle id fun a => { a with product := p.revised fields b.next.time })
  | deleteProduct {id : String} {p : Product} {looks : Nat} (live : b.product? id = some p) :
    Step b (.deleteProduct id) .nothing
      ((b.spend 0 looks).setArticle id fun a => { a with deleted := true })
  | deposit {user : String} {amount balance : Money} {w : Wallet}
      (holder : b.wallet? user = some w) (exact : balance.value = w.balance.value + amount.value) :
    Step b (.deposit user amount) (.entry (b.newEntry w.id (.deposit amount) 1))
      (b.post user w.id balance (.deposit amount) 1)
  | withdraw {user : String} {amount balance : Money} {w : Wallet}
      (holder : b.wallet? user = some w) (enough : amount ≤ w.balance)
      (exact : balance.value = w.balance.value - amount.value) :
    Step b (.withdraw user amount) (.entry (b.newEntry w.id (.withdraw amount) 1))
      (b.post user w.id balance (.withdraw amount) 1)
  | purchase {user id : String} {quantity stock : Int64} {total balance : Money} {w : Wallet}
      {p : Product} {look : Nat} (holder : b.wallet? user = some w)
      (live : b.product? id = some p)
      (inStock : quantity.toInt ≤ p.stock.toInt)
      (priced : total.value = p.price.value * quantity.toInt) (enough : total ≤ w.balance)
      (exact : balance.value = w.balance.value - total.value)
      (left : stock.toInt = p.stock.toInt - quantity.toInt) :
    Step b (.purchase user id quantity)
      (.entry (b.newEntry w.id (.purchase id quantity total) (look + 1)))
      ((b.post user w.id balance (.purchase id quantity total) (look + 1)).setStock id stock
        (b.instant look))

/-! ## Well-formed books stay so -/

variable {b : Books} {user id : String}

/-- The holder of a balance that is written is still there. -/
theorem mem_setBalance {w : Wallet} (holder : b.wallet? user = some w) {balance : Money}
    {time : Timestamp} : w.id ∈ (b.setBalance user balance time).wallets.map (·.id) := by
  have ids : (b.setBalance user balance time).wallets.map (·.id) = b.wallets.map (·.id) :=
    map_setWallet fun _ => rfl
  rw [ids]
  exact List.mem_map_of_mem (wallet?_eq_some holder).1

/-- A product whose stock is written is still there. -/
theorem mem_setStock {p : Product} (live : b.product? id = some p) {stock : Int64}
    {time : Timestamp} : id ∈ (b.setStock id stock time).articles.map (·.product.id) := by
  have ids : (b.setStock id stock time).articles.map (·.product.id) =
      b.articles.map (·.product.id) := map_setArticle fun _ => rfl
  obtain ⟨mem, rfl⟩ := product?_eq_some live
  rw [ids]
  exact List.mem_map_of_mem (f := fun a : Article => a.product.id) mem

namespace WellFormed

/-- No wallet has the identifier that the next change is given. -/
theorem fresh_wallet (h : b.WellFormed) : b.next.id ∉ b.wallets.map (·.id) := by
  have fresh := h.wallets.fresh
  rwa [List.map_map] at fresh

theorem fresh_article (h : b.WellFormed) : b.next.id ∉ b.articles.map (·.product.id) := by
  have fresh := h.articles.fresh
  rwa [List.map_map] at fresh

theorem fresh_entry (h : b.WellFormed) : b.next.id ∉ b.entries.map (·.id) := by
  have fresh := h.entries.fresh
  rwa [List.map_map] at fresh

/-- No entry refers to a wallet that is yet to be made. -/
theorem walletId_ne_next (h : b.WellFormed) {e : Entry} (mem : e ∈ b.entries) :
    e.walletId ≠ b.next.id :=
  fun same => h.fresh_wallet (same ▸ h.holders e mem)

theorem spend (h : b.WellFormed) (ids looks : Nat) : (b.spend ids looks).WellFormed :=
  ⟨h.wallets.spend ids looks, h.articles.spend ids looks, h.entries.spend ids looks, h.owners,
    h.holders, h.goods⟩

/-- Identity records have no part in it. -/
theorem withUsers (h : b.WellFormed) (users : List User) : ({ b with users } : Books).WellFormed :=
  ⟨h.wallets, h.articles, h.entries, h.owners, h.holders, h.goods⟩

theorem setWallet (h : b.WellFormed) {change : Wallet → Wallet}
    (keeps : ∀ w, (change w).stamp = w.stamp ∧ (change w).userId = w.userId) :
    (b.setWallet user change).WellFormed where
  wallets := by rw [map_setWallet fun w => (keeps w).1]; exact h.wallets
  articles := h.articles
  entries := h.entries
  owners := by rw [map_setWallet fun w => (keeps w).2]; exact h.owners
  holders e he := by
    rw [map_setWallet fun w => congrArg Stamp.id (keeps w).1]
    exact h.holders e he
  goods := h.goods

theorem setBalance (h : b.WellFormed) {balance : Money} {time : Timestamp} :
    (b.setBalance user balance time).WellFormed :=
  h.setWallet fun _ => ⟨rfl, rfl⟩

theorem setArticle (h : b.WellFormed) {change : Article → Article}
    (keeps : ∀ a ∈ b.articles, a.product.id = id → (change a).stamp = a.stamp) :
    (b.setArticle id change).WellFormed := by
  have stamps : (b.setArticle id change).articles.map Article.stamp =
      b.articles.map Article.stamp := map_setArticle_of_own keeps
  have ids : (b.setArticle id change).articles.map (·.product.id) =
      b.articles.map (·.product.id) := by
    simpa [List.map_map, Article.stamp, Function.comp_def] using congrArg (List.map Stamp.id) stamps
  exact ⟨h.wallets, stamps ▸ h.articles, h.entries, h.owners, h.holders,
    fun e he p hp => ids ▸ h.goods e he p hp⟩

theorem addWallet (h : b.WellFormed) (vacant : b.wallet? user = none) :
    ((b.spend 1 1).addWallet (b.newWallet user)).WellFormed where
  wallets := by
    simp only [Books.addWallet, List.map_append]
    exact h.wallets.append Nat.zero_lt_one
  articles := h.articles.spend 1 1
  entries := h.entries.spend 1 1
  owners := by
    simp only [Books.addWallet, List.map_append, List.map_cons, List.map_nil]
    refine List.nodup_append.mpr ⟨h.owners, List.nodup_singleton _, fun u hu v hv e => ?_⟩
    obtain ⟨w, hw, rfl⟩ := List.mem_map.mp hu
    exact wallet?_eq_none.mp vacant w hw (e.trans (List.mem_singleton.mp hv))
  holders e he := by
    simp only [Books.addWallet, List.map_append]
    exact List.mem_append_left _ (h.holders e he)
  goods := h.goods

theorem addProduct (h : b.WellFormed) (fields : NewProduct) :
    ((b.spend 1 1).addProduct (b.newProduct fields)).WellFormed where
  wallets := h.wallets.spend 1 1
  articles := by
    simp only [Books.addProduct, List.map_append]
    exact h.articles.append Nat.zero_lt_one
  entries := h.entries.spend 1 1
  owners := h.owners
  holders := h.holders
  goods e he p hp := by
    simp only [Books.addProduct, List.map_append]
    exact List.mem_append_left _ (h.goods e he p hp)

theorem post (h : b.WellFormed) {w : Wallet} (holder : b.wallet? user = some w) (balance : Money)
    {kind : EntryKind} (look : Nat)
    (goods : ∀ p, kind.productId? = some p → p ∈ b.articles.map (·.product.id)) :
    (b.post user w.id balance kind look).WellFormed := by
  have written : ((b.spend 1 (look + 1)).setBalance user balance b.next.time).WellFormed :=
    (h.spend 1 (look + 1)).setBalance
  refine ⟨written.wallets, written.articles, ?_, written.owners, fun e he => ?_, fun e he => ?_⟩
  · simp only [Books.post, addEntry, List.map_append]
    exact h.entries.append (Nat.lt_succ_self look)
  · rcases List.mem_append.mp he with he | he
    · exact written.holders e he
    · rw [List.mem_singleton.mp he]
      exact mem_setBalance (b := b.spend 1 (look + 1)) holder
  · rcases List.mem_append.mp he with he | he
    · exact written.goods e he
    · rw [List.mem_singleton.mp he]
      exact goods

end WellFormed

theorem Step.wellFormed {call : StoreCall} {reply : Reply} {b' : Books} (h : Step b call reply b')
    (wf : b.WellFormed) : b'.WellFormed := by
  cases h with
  | read => exact wf
  | createWallet vacant => exact wf.addWallet vacant
  | insertProduct => exact wf.addProduct _
  | updateProduct live =>
    refine (wf.spend 0 1).setArticle fun a ha own => ?_
    rw [wf.article_eq live ha own]
    rfl
  | deleteProduct live => exact (wf.spend 0 _).setArticle fun _ _ _ => rfl
  | deposit holder => exact wf.post holder _ 1 (by simp [EntryKind.productId?])
  | withdraw holder => exact wf.post holder _ 1 (by simp [EntryKind.productId?])
  | purchase holder live =>
    obtain ⟨mem, rfl⟩ := product?_eq_some live
    refine (wf.post holder _ _ fun p hp => ?_).setArticle fun _ _ _ => rfl
    obtain rfl : _ = p := by simpa [EntryKind.productId?] using hp
    exact List.mem_map_of_mem (f := fun a : Article => a.product.id) mem

end Memory.Books

end WalletLedger
