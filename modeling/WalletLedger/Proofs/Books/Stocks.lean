import WalletLedger.Proofs.Books.Ledger
import Mathlib.Algebra.Ring.Int.Defs

/-!
# Stocks and the ledger

The stock of a product is given by whoever inserts or updates the product, and
drawn on by purchases. A past of answered calls tallies with stocks when each
of them is what was given last, less what was sold since (`Tallied`). Every
step accounts for the stocks after it, by what it gave and what it sold
(`Step.accounts`), so it keeps the tally (`Step.tallied`), whatever comes of the
product in between.
-/

namespace WalletLedger

/-- The units of a product that entries sold. -/
def sold (id : String) (es : List Entry) : Int :=
  (es.map fun e =>
    match e.kind with
    | .purchase p quantity _ => if p = id then quantity.toInt else 0
    | _ => 0).sum

theorem sold_append (id : String) (es fs : List Entry) :
    sold id (es ++ fs) = sold id es + sold id fs := by
  simp [sold]

/-- The product whose stock an answered call gave, and this stock. -/
def Answered.stock? : Answered → Option (String × Int64)
  | ⟨.insertProduct fields, .product p⟩ => some (p.id, fields.stock)
  | ⟨.updateProduct id fields, _⟩ => some (id, fields.stock)
  | _ => none

/-- Every stock is the one that was given last, less the units of its product in the
entries that were committed since. -/
def Tallied (past : List Answered) (stocks : List (String × Int64)) : Prop :=
  ∀ id stock, (id, stock) ∈ stocks → ∃ earlier a later given, past = earlier ++ a :: later ∧
    a.stock? = some (id, given) ∧ (∀ c ∈ later, ∀ other, c.stock? ≠ some (id, other)) ∧
    stock.toInt = given.toInt - sold id (committed later)

/-- A stock is the one that an answered call gave, or the one from before less what
the call sold. -/
def Answered.Accounts (a : Answered) (before : List (String × Int64)) (id : String)
    (stock : Int64) : Prop :=
  a.stock? = some (id, stock) ∨ ∃ old, (id, old) ∈ before ∧
    (∀ other, a.stock? ≠ some (id, other)) ∧ stock.toInt = old.toInt - sold id a.entry?.toList

namespace Memory.Books

/-- The products, live or deleted, and their stocks. -/
def stocks (b : Books) : List (String × Int64) :=
  b.articles.map fun a => (a.product.id, a.product.stock)

variable {b b' : Books} {call : StoreCall} {reply : Reply} {id : String} {stock : Int64}

theorem mem_stocks :
    (id, stock) ∈ b.stocks ↔ ∃ a ∈ b.articles, a.product.id = id ∧ a.product.stock = stock := by
  simp [stocks]

theorem stocks_setStock (bought : String) (left : Int64) (time : Timestamp) :
    (b.setStock bought left time).stocks =
      b.stocks.map fun s => if s.1 = bought then (bought, left) else s := by
  simp only [stocks, setStock, setArticle, List.map_map]
  refine List.map_congr_left fun a _ => ?_
  by_cases own : a.product.id = bought <;> simp [own]

/-! ## What steps do to stocks -/

/-- A step that neither gives a stock nor sells anything. -/
theorem accounts_of_same {a : Answered} (mem : (id, stock) ∈ b.stocks) (gives : a.stock? = none)
    (sells : sold id a.entry?.toList = 0) : a.Accounts b.stocks id stock :=
  .inr ⟨stock, mem, by simp [gives], by omega⟩

/-- A new product has a new identifier, so it does not replace the stock of another. -/
theorem accounts_of_insert (wf : b.WellFormed) {fields : NewProduct}
    (mem : (id, stock) ∈ ((b.spend 1 1).addProduct (b.newProduct fields)).stocks) :
    Answered.Accounts ⟨.insertProduct fields, .product (b.newProduct fields)⟩ b.stocks id
      stock := by
  obtain ⟨a, ha, rfl, rfl⟩ := mem_stocks.mp mem
  rcases List.mem_append.mp ha with old | new
  · refine .inr ⟨_, mem_stocks.mpr ⟨a, old, rfl, rfl⟩, fun other same => ?_, (Int.sub_zero _).symm⟩
    have taken : b.next.id = a.product.id := congrArg Prod.fst (Option.some.inj same)
    exact wf.fresh_article (List.mem_map.mpr ⟨a, old, taken.symm⟩)
  · obtain rfl := List.mem_singleton.mp new
    exact .inl rfl

theorem accounts_of_update {updated : String} {fields : NewProduct} {p : Product}
    (live : b.product? updated = some p)
    (mem : (id, stock) ∈ ((b.spend 0 1).setArticle updated fun a =>
      { a with product := p.revised fields b.next.time }).stocks) :
    Answered.Accounts ⟨.updateProduct updated fields, reply⟩ b.stocks id stock := by
  obtain ⟨a, ha, rfl, rfl⟩ := mem_stocks.mp mem
  rcases mem_setArticle ha with ⟨c, -, -, rfl⟩ | ⟨old, spared⟩
  · obtain rfl : p.id = updated := (product?_eq_some live).2
    exact .inl rfl
  · refine .inr ⟨_, mem_stocks.mpr ⟨a, old, rfl, rfl⟩, fun other same => ?_, (Int.sub_zero _).symm⟩
    exact spared (congrArg Prod.fst (Option.some.inj same)).symm

/-- A purchase takes its quantity from the stock of its product, and nothing from others. -/
theorem accounts_of_purchase (wf : b.WellFormed) {user bought : String} {quantity left : Int64}
    {p : Product} {e : Entry} {amount : Money} (live : b.product? bought = some p)
    (rest : left.toInt = p.stock.toInt - quantity.toInt)
    (kind : e.kind = .purchase bought quantity amount)
    (mem : (id, stock) ∈ b.stocks.map fun s => if s.1 = bought then (bought, left) else s) :
    Answered.Accounts ⟨.purchase user bought quantity, .entry e⟩ b.stocks id stock := by
  have sells : sold id [e] = if bought = id then quantity.toInt else 0 := by simp [sold, kind]
  obtain ⟨⟨there, old⟩, row, eq⟩ := List.mem_map.mp mem
  by_cases own : there = bought <;> simp only [own, ↓reduceIte, Prod.mk.injEq] at eq <;>
    obtain ⟨rfl, rfl⟩ := eq
  · obtain ⟨a, ha, same, rfl⟩ := mem_stocks.mp (own ▸ row)
    obtain rfl := wf.article_eq live ha same
    refine .inr ⟨p.stock, mem_stocks.mpr ⟨_, ha, same, rfl⟩, nofun, ?_⟩
    show left.toInt = p.stock.toInt - sold bought [e]
    rw [sells, if_pos rfl, rest]
  · refine .inr ⟨old, row, nofun, ?_⟩
    show old.toInt = old.toInt - sold there [e]
    rw [sells, if_neg (Ne.symm own), Int.sub_zero]

theorem Step.accounts (h : Step b call reply b') (wf : b.WellFormed)
    (mem : (id, stock) ∈ b'.stocks) : Answered.Accounts ⟨call, reply⟩ b.stocks id stock := by
  cases h with
  | read reads =>
    refine accounts_of_same mem ?_ ?_
    · cases call <;> first | rfl | cases reads
    · cases call <;> rfl
  | createWallet => exact accounts_of_same mem rfl rfl
  | insertProduct => exact accounts_of_insert wf mem
  | updateProduct live => exact accounts_of_update live mem
  | @deleteProduct gone p looks live =>
    have kept : (b.setArticle gone fun a => { a with deleted := true }).stocks = b.stocks :=
      map_setArticle fun _ => rfl
    exact accounts_of_same (kept ▸ mem) rfl rfl
  | deposit => exact accounts_of_same mem rfl rfl
  | withdraw => exact accounts_of_same mem rfl rfl
  | purchase holder live inStock priced enough exact left =>
    rw [stocks_setStock] at mem
    exact accounts_of_purchase wf live left rfl mem

theorem filter_besides (stocks : List (String × Int64)) (bought : String) (left : Int64) :
    (stocks.map fun s => if s.1 = bought then (bought, left) else s).filter (·.1 != bought) =
      stocks.filter (·.1 != bought) := by
  induction stocks with
  | nil => rfl
  | cons s stocks ih => by_cases own : s.1 = bought <;> simp [own, ih]

/-- A purchase leaves the stock of every other product alone. -/
theorem Step.stocks_besides {user bought : String} {quantity : Int64}
    (h : Step b (.purchase user bought quantity) reply b') :
    b'.stocks.filter (·.1 != bought) = b.stocks.filter (·.1 != bought) := by
  cases h with
  | read reads => cases reads
  | purchase =>
    rw [stocks_setStock]
    exact filter_besides _ _ _

/-- Every step keeps the tally of a past, which it is added to. -/
theorem Step.tallied (h : Step b call reply b') (wf : b.WellFormed) {past : List Answered}
    (tallied : Tallied past b.stocks) : Tallied (past ++ [⟨call, reply⟩]) b'.stocks := by
  intro id stock mem
  rcases h.accounts wf mem with gives | ⟨old, there, gives, exact⟩
  · exact ⟨past, _, [], stock, rfl, gives, by simp, by simp [committed, sold]⟩
  · -- the stock was given before this step, and the sale of the step joins those since
    obtain ⟨earlier, a, later, given, rfl, gave, last, sum⟩ := tallied id old there
    refine ⟨earlier, a, later ++ [⟨call, reply⟩], given, by simp, gave, fun c hc => ?_, ?_⟩
    · rcases List.mem_append.mp hc with hc | hc
      · exact last c hc
      · rw [List.mem_singleton.mp hc]
        exact gives
    · rw [committed_concat, sold_append]
      omega

end Memory.Books

end WalletLedger
