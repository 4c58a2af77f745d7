import WalletLedger.Proofs.Books.Stocks
import WalletLedger.Proofs.Chronicle

/-!
# Stocks reconcile with the ledger

In every state that a store comes to, the stock of every product, live or
deleted, is what its last insert or update gave, less what the ledger says was
sold of it since (`stocks_reconcile`). Calls that fail change no stock, and a
purchase changes that of its product only.
-/

namespace WalletLedger

open Memory

namespace Conduct

variable {W M : Type}

/-- The stocks of a state with these books, to which calls were answered that are past. -/
structure StocksKept (c : Conduct W M) (past : List Answered) (w : W) (b : Books) : Prop where
  /-- Every product has one stock. -/
  distinct : (b.stocks.map (·.1)).Nodup
  /-- The entries are those that the answered calls returned. -/
  recorded : b.entries = committed past
  /-- Every stock is the one given last, less the units sold since. -/
  tallied : Tallied past b.stocks
  /-- A call that fails changes no stock. -/
  failed : ∀ manner call e w', c.ends manner call w (.error e) w' →
    ∃ b', c.books? w' = some b' ∧ b'.stocks = b.stocks
  /-- A purchase changes the stock of no other product. -/
  spared : ∀ manner user id quantity reply w',
    c.ends manner (.purchase user id quantity) w (.ok reply) w' →
    ∃ b', c.books? w' = some b' ∧
      b'.stocks.filter (·.1 != id) = b.stocks.filter (·.1 != id)

namespace Follows

variable {c : Conduct W M} {holds : W → Books → Prop} {start w : W} {b : Books}

/-- The books of a state have the stocks of those that it holds. -/
theorem shown_stocks (follows : c.Follows holds) (held : holds w b) :
    ∃ b', c.books? w = some b' ∧ b'.stocks = b.stocks ∧ b'.entries = b.entries := by
  obtain ⟨articles, users, same, shown⟩ := follows.shown held
  refine ⟨_, shown, Database.map_masked (fun a => ?_) same, rfl⟩
  rw [Database.masked_id, Database.masked_stock]

theorem stocksKept (follows : c.Follows holds) (held : holds start b) (wf : b.WellFormed)
    (empty : b.entries = []) (bare : b.articles = []) {past : List Answered}
    (run : Chronicle c start past w) :
    ∃ b, c.books? w = some b ∧ c.StocksKept past w b := by
  obtain ⟨b, held, wf, recorded, tallied⟩ := run.keeps
    (P := fun past b => b.entries = committed past ∧ Tallied past b.stocks)
    follows held wf ⟨empty, by simp [Tallied, Books.stocks, bare]⟩
    (fun ⟨recorded, tallied⟩ wf step =>
      ⟨by rw [step.entries_eq, recorded, committed_concat], step.tallied wf tallied⟩)
    (fun _ _ kept => kept)
  obtain ⟨shown, books, stocks, entries⟩ := follows.shown_stocks held
  refine ⟨shown, books, ?_, entries.trans recorded, stocks ▸ tallied, ?_, ?_⟩
  · rw [stocks, Books.stocks, List.map_map]
    exact wf.articleIds
  · intro manner call e w' ended
    obtain ⟨b', books', same, -⟩ := follows.shown_stocks (follows.failed held wf ended).1
    exact ⟨b', books', same.trans stocks.symm⟩
  · intro manner user id quantity reply w' ended
    obtain ⟨after, step, held'⟩ := follows.answered held wf ended
    obtain ⟨b', books', same, -⟩ := follows.shown_stocks held'
    exact ⟨b', books', by rw [same, stocks, step.stocks_besides]⟩

end Follows

end Conduct

/-- From a memory store without wallets, products and entries, and from a database without
them, every run of calls with any arguments leads to a state whose stocks are what was given
last, less what was sold since. -/
theorem stocks_reconcile :
    (∀ (users : List User) (supply : Supply) (fault : Option FaultPoint) (shelf : Shelf)
      (past : List Answered) (w : World Memory),
      Chronicle Memory.conduct ⟨⟨.opening users supply, fault⟩, shelf⟩ past w →
      ∃ b, Memory.conduct.books? w = some b ∧ Memory.conduct.StocksKept past w b) ∧
    ∀ (rows : List Database.UserRow) (supply : Supply) (guards : List Database.Guard)
      (enforced : Bool) (pool : Database.Pool) (past : List Answered) (db : Database),
      Chronicle Database.conduct (.opening rows supply guards enforced pool) past db →
      ∃ b, Database.conduct.books? db = some b ∧ Database.conduct.StocksKept past db b := by
  refine ⟨fun users supply fault shelf past w run => ?_,
    fun rows supply guards enforced pool past db run => ?_⟩
  · exact Memory.follows.stocksKept (b := .opening users supply) rfl
      (Books.opening_wellFormed users supply) rfl rfl run
  · exact Database.follows.stocksKept (Database.opening_keeps rows supply guards enforced pool)
      (Books.opening_wellFormed _ supply.inOrder) rfl rfl run

/-- Tea at 2.50, three of which are in stock. -/
def tea : NewProduct := ⟨"Tea", "", ⟨250⟩, 3⟩

/-- Two units of a new product are bought, two more are not in stock, and it is deleted. -/
def teaCalls : List StoreCall :=
  [.createWallet "u", .deposit "u" ⟨500⟩, .insertProduct tea,
    .purchase "u" (Uuid.numbered 3) 2, .purchase "u" (Uuid.numbered 3) 2,
    .deleteProduct (Uuid.numbered 3)]

/-- One unit is left, in either store. -/
theorem sold_stock_is_tallied :
    (∃ past w b, Chronicle Memory.conduct ⟨⟨.opening [] .start, none⟩, .empty⟩ past w ∧
      Memory.conduct.books? w = some b ∧ b.stocks = [(Uuid.numbered 3, 1)] ∧
      Memory.conduct.StocksKept past w b) ∧
    ∃ past db b,
      Chronicle Database.conduct (.opening [] .start [] true ⟨4, ⟨0⟩, true, false⟩) past db ∧
      Database.conduct.books? db = some b ∧ b.stocks = [(Uuid.numbered 3, 1)] ∧
      Database.conduct.StocksKept past db b := by
  have inMemory : Chronicle Memory.conduct ⟨⟨.opening [] .start, none⟩, .empty⟩ _ _ :=
    Chronicle.start.play (.unlimited, none) teaCalls
  have inDatabase : Chronicle Database.conduct (.opening [] .start [] true ⟨4, ⟨0⟩, true, false⟩)
      _ _ := Chronicle.start.play (.smooth, none) teaCalls
  obtain ⟨b, shown, kept⟩ := stocks_reconcile.1 _ _ _ _ _ _ inMemory
  obtain ⟨b', shown', kept'⟩ := stocks_reconcile.2 _ _ _ _ _ _ _ inDatabase
  have left : ((Memory.conduct.books? (Memory.conduct.play (.unlimited, none) teaCalls
      ⟨⟨.opening [] .start, none⟩, .empty⟩).2).map Books.stocks) =
        some [(Uuid.numbered 3, 1)] := by decide +kernel
  have left' : ((Database.conduct.books? (Database.conduct.play (.smooth, none) teaCalls
      (.opening [] .start [] true ⟨4, ⟨0⟩, true, false⟩)).2).map Books.stocks) =
        some [(Uuid.numbered 3, 1)] := by decide +kernel
  rw [shown] at left
  rw [shown'] at left'
  exact ⟨⟨_, _, b, inMemory, shown, Option.some.inj left, kept⟩,
    _, _, b', inDatabase, shown', Option.some.inj left', kept'⟩

end WalletLedger
