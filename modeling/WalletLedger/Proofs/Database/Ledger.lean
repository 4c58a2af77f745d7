import WalletLedger.Proofs.Database.Stage
import WalletLedger.Proofs.Database.Transactions

/-!
# The ledger of a database that keeps books

What the statements of a unit of work do to a database that keeps books: they
find the wallet and the product of the books, and write balances, stocks and
entries as they are written in the books. So a deposit, a withdrawal and a
purchase answer what `Books.respond` answers, and the database keeps the books
after it (`meets_deposit`, `meets_withdraw`, `meets_purchase`).
-/

namespace WalletLedger.Database

open Memory Query

variable {clear : Prop} {db : Database} {b : Books}

namespace Work

variable {P : Failure → Prop} {user id : String}

theorem meets_findWallet {Q : Wallet → Database → Prop} (h : Keeps db b)
    (missing : b.wallet? user = none → clear → P (.refused (.walletNotFound user)))
    (found : ∀ w, b.wallet? user = some w → Q w db) :
    Meets clear (findWallet user) db Q P := by
  refine meets_bind (meets_statement ?_)
  exact meets_wallets h.wallets (meets_orRefuse missing found)

theorem meets_findProduct {Q : Product → Database → Prop} (h : Keeps db b) (wf : b.WellFormed)
    (missing : b.product? id = none → clear → P (.refused (.productNotFound id)))
    (found : ∀ p, b.product? id = some p → Q p db) :
    Meets clear (findProduct id) db Q P := by
  obtain ⟨rows, there, same⟩ := h.products
  have live : (rows.find? fun a => a.product.id == id && !a.deleted).map (·.product) =
      b.product? id := by
    show (rows.find? (isLive id)).map (·.product) = _
    rw [find_live wf same, Option.map_map]
    exact Option.map_id'
  refine meets_bind (meets_statement ?_)
  refine meets_products there (meets_orRefuse ?_ ?_) <;> rw [live]
  · exact missing
  · exact found

theorem meets_newId {Q : String → Database → Prop} (h : Stage clear db b)
    (done : ∀ db, Stage clear db (b.spend 1 0) → Q b.next.id db) :
    Meets clear (query newId) db Q P := by
  refine meets_query (Query.meets_newId ?_)
  show Q db.supply.next.id _
  rw [h.next_eq]
  exact done _ (h.spend 1 0)

theorem meets_readClock {Q : Timestamp → Database → Prop} (h : Stage clear db b)
    (done : ∀ db, Stage clear db (b.spend 0 1) → Q b.next.time db) :
    Meets clear (query readClock) db Q P := by
  refine meets_query (Query.meets_readClock ?_)
  show Q db.supply.next.time _
  rw [h.next_eq]
  exact done _ (h.spend 0 1)

theorem meets_writeBalance {Q : Unit → Database → Prop} (h : Stage clear db b)
    (wf : b.WellFormed) {w : Wallet} (holder : b.wallet? user = some w) {balance : Money}
    (sound : clear → 0 ≤ balance.value)
    (done : ∀ db, Stage clear db ((b.spend 0 1).setBalance user balance b.next.time) → Q () db) :
    Meets clear (writeBalance w.id balance) db Q P := by
  refine meets_bind (meets_readClock h fun db h => ?_)
  refine meets_bind (meets_statement (h.meets_wallets ?_))
  refine Query.meets_bind (meets_updateRow h.unguarded ?_ ?_ ?_ ?_)
  · intro c v _
    simp [walletChecks, firstBroken?, Money.isNegative, sound c]
  · intro missing
    rw [(wf.spend 0 1).find_id holder] at missing
    cases missing
  · intro v _
    rw [(wf.spend 0 1).map_id_eq holder]
    refine Query.meets_bind (meets_modify (Query.meets_pure ?_))
    exact meets_pure (done _ (h.setWallets _))
  · refine fun hindered => Query.meets_bind (meets_modify (Query.meets_pure ?_))
    exact meets_refuse fun c => absurd c hindered

theorem meets_writeStock {Q : Unit → Database → Prop} (h : Stage clear db b) (wf : b.WellFormed)
    {p : Product} (live : b.product? id = some p) {stock : Int64}
    (sound : clear → 0 < p.price.value ∧ 0 ≤ stock.toInt)
    (done : ∀ db, Stage clear db ((b.spend 0 1).setStock id stock b.next.time) → Q () db) :
    Meets clear (writeStock id stock) db Q P := by
  refine meets_bind (meets_readClock h fun db h => ?_)
  obtain ⟨rows, there, same⟩ := h.keeps.products
  have chosen : (p.id == id) = true := beq_iff_eq.mpr (Books.product?_eq_some live).2
  have own (r : Article) : (r.product.id == id) = true → r.product.id = id := beq_iff_eq.mp
  have row : rows.find? (·.product.id == id) = some ⟨p, false⟩ := find_row wf same live chosen own
  refine meets_bind (meets_statement (Query.meets_bind (meets_products there ?_)))
  refine Query.meets_bind (meets_updateRow h.unguarded ?_ ?_ ?_ ?_)
  · intro c a found
    rw [row] at found
    cases found
    simp [productChecks, firstBroken?, Money.isPositive, sound c]
  · intro missing
    rw [row] at missing
    cases missing
  · intro a _
    refine Query.meets_bind (meets_modify (Query.meets_pure ?_))
    refine meets_pure (done _ (h.setProducts ?_))
    exact masked_setArticle (wf.spend 0 1) same live chosen own rfl
  · refine fun hindered => Query.meets_bind (meets_modify (Query.meets_pure ?_))
    exact meets_refuse fun c => absurd c hindered

theorem entryChecks_hold {stamp : Stamp} {walletId : String} {kind : EntryKind}
    (amount : 0 < kind.amount.value) (quantity : ∀ q, kind.quantity? = some q → 0 < q.toInt) :
    firstBroken? entryChecks (.ofKind stamp walletId kind) = none := by
  have positive : kind.amount.isPositive := decide_eq_true amount
  have known : (EntryType.ofName? kind.type.name).isSome := by cases kind <;> rfl
  have shaped : (EntryRow.ofKind stamp walletId kind).isShaped := by
    cases kind with
    | purchase p q a => exact decide_eq_true (quantity q rfl)
    | _ => rfl
  rw [firstBroken?_eq_none]
  simpa [entryChecks] using ⟨positive, known, shaped⟩

theorem references_hold (h : Keeps db b) {row : EntryRow}
    (held : row.walletId ∈ b.wallets.map (·.id))
    (goods : ∀ p, row.productId = some p → p ∈ b.articles.map (·.product.id)) :
    hasReferences db row = true := by
  obtain ⟨rows, there, same⟩ := h.products
  have ids : rows.map (·.product.id) = b.articles.map (·.product.id) := map_masked masked_id same
  unfold hasReferences
  rw [h.wallets, there]
  have wallet : b.wallets.any (·.id == row.walletId) = true := by simpa using held
  have product : ∀ p, row.productId = some p → rows.any (·.product.id == p) = true := by
    intro p hp
    have := ids ▸ goods p hp
    simpa using this
  rcases hp : row.productId with _ | p
  · exact Bool.and_eq_true_iff.mpr ⟨wallet, rfl⟩
  · exact Bool.and_eq_true_iff.mpr ⟨wallet, product p hp⟩

theorem meets_append {Q : Entry → Database → Prop} (h : Stage clear db b)
    {walletId : String} {kind : EntryKind} (held : walletId ∈ b.wallets.map (·.id))
    (goods : ∀ p, kind.productId? = some p → p ∈ b.articles.map (·.product.id))
    (amount : clear → 0 < kind.amount.value)
    (quantity : clear → ∀ q, kind.quantity? = some q → 0 < q.toInt)
    (done : ∀ db, Stage clear db ((b.spend 1 1).addEntry (b.newEntry walletId kind 0)) →
      Q (b.newEntry walletId kind 0) db) :
    Meets clear (append walletId kind) db Q P := by
  refine meets_bind (meets_newId h fun db h => meets_bind (meets_readClock h fun db h => ?_))
  refine meets_statement (h.meets_entries ?_)
  refine Query.meets_bind (meets_passGuard h.unguarded ?_ ?_)
  · have sound (stamp : Stamp) (c : clear) :
        firstBroken? entryChecks (.ofKind stamp walletId kind) = none :=
      entryChecks_hold (amount c) (quantity c)
    refine Query.meets_bind (meets_passChecks (sound _) (Query.meets_bind (meets_get ?_)))
    refine Query.meets_bind (meets_passReferences (fun _ => references_hold h.keeps held goods) ?_)
    refine Query.meets_bind (meets_modify ?_)
    refine meets_ofExcept ?_ (done _ ⟨?_, h.unguarded, h.free⟩)
    · cases kind <;> rfl
    · refine ⟨h.keeps.supply, h.keeps.users, h.keeps.wallets, h.keeps.products, ?_⟩
      rw [Books.addEntry, List.map_append]
      rfl
  · exact fun hindered => meets_throw fun c => absurd c hindered

/-! ## Whole units -/

theorem meets_deposit (h : Stage clear db b) (wf : b.WellFormed) {amount : Money}
    (sound : clear → b.InBounds ∧ 0 < amount.value) :
    Meets clear (deposit user amount) db
      (fun e db => Agrees clear (b.respond manner (.deposit user amount)) (.entry e) db)
      (fun e => b.respond manner (.deposit user amount) = .error e) := by
  rw [Books.respond]
  refine meets_bind (meets_findWallet h.keeps (fun missing _ => by simp [missing])
    fun w holder => ?_)
  simp only [holder]
  refine meets_bind (meets_orRefuse (fun unfit _ => by simp [unfit]) fun balance exact => ?_)
  simp only [exact]
  have sum : clear → 0 ≤ balance.value := fun c => by
    have := (sound c).1.balance holder
    have := (sound c).2
    have := Money.add?_eq_some_iff.mp exact
    omega
  refine meets_bind (meets_writeBalance h wf holder sum fun db h => ?_)
  exact meets_append h (Books.mem_setBalance holder) (by simp [EntryKind.productId?])
    (fun c => (sound c).2) (by simp [EntryKind.quantity?]) fun db h => ⟨_, rfl, h⟩

theorem meets_withdraw (h : Stage clear db b) (wf : b.WellFormed) {amount : Money}
    (positive : clear → 0 < amount.value) :
    Meets clear (withdraw user amount) db
      (fun e db => Agrees clear (b.respond manner (.withdraw user amount)) (.entry e) db)
      (fun e => b.respond manner (.withdraw user amount) = .error e) := by
  rw [Books.respond]
  refine meets_bind (meets_findWallet h.keeps (fun missing _ => by simp [missing])
    fun w holder => ?_)
  simp only [holder]
  refine meets_guard (fun short _ => by simp [short]) fun enough => ?_
  simp only [enough, ↓reduceIte]
  refine meets_bind (meets_compute (fun cause stopped => by simp [stopped]) fun balance exact => ?_)
  simp only [exact]
  have left : 0 ≤ balance.value := by
    have := Money.le_iff.mp (Money.le_of_not_lt enough)
    have := Money.sub_eq_ok_iff.mp exact
    omega
  refine meets_bind (meets_writeBalance h wf holder (fun _ => left) fun db h => ?_)
  exact meets_append h (Books.mem_setBalance holder) (by simp [EntryKind.productId?])
    positive (by simp [EntryKind.quantity?]) fun db h => ⟨_, rfl, h⟩

theorem meets_purchase (h : Stage clear db b) (wf : b.WellFormed) {quantity : Int64}
    (sound : clear → b.InBounds ∧ 0 < quantity.toInt) :
    Meets clear (purchase user id quantity) db
      (fun e db => Agrees clear (b.respond manner (.purchase user id quantity)) (.entry e) db)
      (fun e => b.respond manner (.purchase user id quantity) = .error e) := by
  rw [Books.respond]
  refine meets_bind (meets_findWallet h.keeps (fun missing _ => by simp [missing])
    fun w holder => ?_)
  simp only [holder]
  refine meets_bind (meets_findProduct h.keeps wf (fun missing _ => by simp [missing])
    fun p live => ?_)
  simp only [live]
  refine meets_guard (fun scarce _ => by simp [scarce]) fun inStock => ?_
  simp only [inStock, ↓reduceIte]
  refine meets_bind (meets_orRefuse (fun unfit _ => by simp [unfit]) fun total priced => ?_)
  simp only [priced]
  refine meets_guard (fun short _ => by simp [short]) fun enough => ?_
  simp only [enough, ↓reduceIte]
  refine meets_bind (meets_compute (fun cause stopped => by simp [stopped]) fun balance exact => ?_)
  simp only [exact]
  have left : 0 ≤ balance.value := by
    have := Money.le_iff.mp (Money.le_of_not_lt enough)
    have := Money.sub_eq_ok_iff.mp exact
    omega
  refine meets_bind (meets_writeBalance h wf holder (fun _ => left) fun db h => ?_)
  refine meets_bind (meets_compute (fun cause stopped => by simp [stopped]) fun stock rest => ?_)
  simp only [rest]
  have stocked : 0 ≤ stock.toInt := by
    have := subtract_eq_ok_iff.mp rest
    omega
  have sold : clear → 0 < total.value := fun c => by
    rw [Money.mul?_eq_some_iff.mp priced]
    exact Int.mul_pos ((sound c).1.live live).1 (sound c).2
  refine meets_bind (meets_writeStock h (wf.spend 0 1).setBalance live
    (fun c => ⟨((sound c).1.live live).1, stocked⟩) fun db h => ?_)
  refine meets_append h (Books.mem_setBalance holder) ?_ sold ?_ fun db h => ⟨_, rfl, h⟩
  · rintro q ⟨⟩
    exact Books.mem_setStock live
  · rintro c q ⟨⟩
    exact (sound c).2

end Work

end WalletLedger.Database
