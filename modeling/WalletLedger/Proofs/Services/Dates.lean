import WalletLedger.Proofs.Books.Dates
import WalletLedger.Proofs.Services.Catalog

/-!
# Which rows a request changes

A request that fails changes no row, and one that is answered changes none but
the wallet of its user and the product that it names (`Effect.kept_of_error`,
`Effect.keeps_wallet`, `Effect.keeps_product`). The rows that it changes it
dates, as its call does (`Effect.dated`); which products these were is told by
the requests that were answered (`Served.touched?`).
-/

namespace WalletLedger

open Memory

/-- The product that a request changed and kept. -/
def Served.touched? : Served → Option String
  | ⟨.updateProduct id _, .ok _⟩ | ⟨.purchase _ id _, .ok _⟩ => some id
  | _ => none

theorem Served.touched?_error (r : Request) (e : Failure) :
    Served.touched? ⟨r, .error e⟩ = none := by
  cases r <;> rfl

/-- The product that an answered request changed and kept is that of its call. -/
theorem Served.touched?_ok (r : Request) (o : Outcome Reply) :
    Served.touched? ⟨r, .ok o⟩ = r.write?.bind StoreCall.touches? := by
  cases r <;> rfl

namespace Request.Effect

variable {α : Type} {r : Request} {b b' : Books} {result : Except Failure α}

/-- No request takes rows away or changes when they were made. -/
theorem made (h : r.Effect b result b') (wf : b.WellFormed) : b.Made b' := by
  rcases h.onward with rfl | ⟨call, reply, -, step⟩
  · exact .refl _
  · exact step.made wf

/-- A request that fails changes no row. -/
theorem kept_of_error {e : Failure} (h : r.Effect b (.error e : Except Failure α) b') :
    b.wallets <+: b'.wallets ∧ b'.articles = b.articles := by
  cases h with
  | nothing => exact ⟨List.prefix_refl _, rfl⟩
  | stranded _ step =>
    cases step with
    | createWallet => exact ⟨List.prefix_append _ _, rfl⟩
    | read => exact ⟨List.prefix_refl _, rfl⟩

/-- A request changes no wallet but that of its user. -/
theorem keeps_wallet (h : r.Effect b result b') {w : Wallet} (mem : w ∈ b.wallets)
    (other : r.user? ≠ some w.userId) : w ∈ b'.wallets := by
  cases h with
  | nothing => exact mem
  | written writes _ step =>
    refine step.keeps_wallet mem fun names => other ?_
    cases r <;> cases writes <;> exact names
  | stranded makes step =>
    subst makes
    exact step.keeps_wallet mem other

/-- A request changes no product but that it names. -/
theorem keeps_product (h : r.Effect b result b') {p : Product} (live : ⟨p, false⟩ ∈ b.articles)
    (other : r.subject? ≠ some p.id) : ⟨p, false⟩ ∈ b'.articles := by
  cases h with
  | nothing => exact live
  | written writes _ step =>
    refine step.keeps_product live fun names => other ?_
    cases r <;> cases writes <;> exact names
  | stranded _ step => exact step.keeps_product live nofun

/-- A request dates the rows that it changes. -/
theorem dated {result : Except Failure (Outcome Reply)} (h : r.Effect b result b')
    (wf : b.WellFormed) {log : List Served} (dated : b.Dated (log.filterMap Served.touched?)) :
    b'.Dated ((log ++ [Served.mk r result]).filterMap Served.touched?) := by
  have last (x : Served) : [x].filterMap Served.touched? = x.touched?.toList := by
    rw [List.filterMap_cons, List.filterMap_nil]
    cases x.touched? <;> rfl
  rw [List.filterMap_append, last]
  cases h with
  | nothing idle =>
    have none : Served.touched? ⟨r, result⟩ = none := by
      rcases result with e | o
      · exact Served.touched?_error r e
      · rw [Served.touched?_ok, idle.resolve_right nofun]
        rfl
    rw [none]
    exact (List.append_nil _).symm ▸ dated
  | written writes _ step =>
    rw [Served.touched?_ok, writes]
    exact step.dated wf dated
  | stranded _ step =>
    rw [Served.touched?_error]
    exact step.dated wf dated

end Request.Effect

end WalletLedger
