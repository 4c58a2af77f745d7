import WalletLedger.Text.Percent

/-!
# Queries of URLs

A query lists parameters between ampersands; the first equals sign of each
stands between its name and its value. In both, plus signs are spaces before
octets are decoded, so an encoded plus sign stays one. A character that has no
meaning in a query is found again in its parameters (`mem_queryParameters`).
-/

namespace WalletLedger.Text

/-- The characters before and after the first of a kind. -/
def splitAtFirst (mark : Char) (cs : List Char) : List Char × List Char :=
  (cs.takeWhile (· ≠ mark), (cs.dropWhile (· ≠ mark)).drop 1)

/-- The text that a word of a query stands for. -/
def queryWord (cs : List Char) : String :=
  String.ofList (Percent.decodeLossy (cs.map fun c => if c = '+' then ' ' else c))

/-- The names and values of the parameters of a query, in their order. -/
def queryParameters (query : List Char) : List (String × String) :=
  ((query.splitOn '&').filter (· ≠ [])).map fun part =>
    let (name, value) := splitAtFirst '=' part
    (queryWord name, queryWord value)

/-! ## Characters of a query -/

theorem all_unmarked {mark : Char} {cs : List Char} (h : mark ∉ cs) :
    ∀ c ∈ cs, decide (c ≠ mark) = true := by
  intro c mem
  rw [decide_eq_true_eq]
  rintro rfl
  exact h mem

theorem splitAtFirst_append {mark : Char} {cs : List Char} (h : mark ∉ cs) (rest : List Char) :
    splitAtFirst mark (cs ++ mark :: rest) = (cs, rest) := by
  unfold splitAtFirst
  rw [List.takeWhile_append_of_pos (all_unmarked h), List.dropWhile_append_of_pos (all_unmarked h)]
  simp

theorem splitAtFirst_of_not_mem {mark : Char} {cs : List Char} (h : mark ∉ cs) :
    splitAtFirst mark cs = (cs, []) := by
  have taken : (cs ++ []).takeWhile (decide <| · ≠ mark) = cs ++ [] :=
    List.takeWhile_append_of_pos (all_unmarked h)
  have dropped : (cs ++ []).dropWhile (decide <| · ≠ mark) = [] :=
    List.dropWhile_append_of_pos (all_unmarked h)
  rw [List.append_nil] at taken dropped
  unfold splitAtFirst
  rw [taken, dropped]
  rfl

theorem mem_splitAtFirst {mark c : Char} {cs : List Char} (mem : c ∈ cs) (other : c ≠ mark) :
    c ∈ (splitAtFirst mark cs).1 ∨ c ∈ (splitAtFirst mark cs).2 := by
  by_cases marked : mark ∈ cs
  · obtain ⟨before, rest, rfl, first⟩ := List.eq_append_cons_of_mem marked
    rw [splitAtFirst_append first]
    simpa [other] using mem
  · rw [splitAtFirst_of_not_mem marked]
    exact .inl mem

theorem exists_mem_splitOn {mark c : Char} {cs : List Char} (mem : c ∈ cs) (other : c ≠ mark) :
    ∃ part ∈ cs.splitOn mark, c ∈ part := by
  induction cs with
  | nil => simp at mem
  | cons d rest ih =>
    rw [List.splitOn_cons_eq_if_modifyHead]
    split
    · next found =>
      have later : c ∈ rest := by simpa [other, eq_of_beq found] using mem
      obtain ⟨part, among, within⟩ := ih later
      exact ⟨part, List.mem_cons_of_mem _ among, within⟩
    · rcases parts : rest.splitOn mark with _ | ⟨first, others⟩
      · exact absurd parts (List.splitOn_ne_nil mark rest)
      rw [parts] at ih
      rcases List.mem_cons.mp mem with rfl | later
      · exact ⟨c :: first, by simp, List.mem_cons_self⟩
      · obtain ⟨part, among, within⟩ := ih later
        rcases List.mem_cons.mp among with rfl | among
        · exact ⟨d :: part, by simp, List.mem_cons_of_mem _ within⟩
        · exact ⟨part, by simp [among], within⟩

theorem mem_queryWord {c : Char} {cs : List Char} (mem : c ∈ cs) (plain : c ≠ '+' ∧ c ≠ '%')
    (notDigit : hexValue? c = none) : c ∈ (queryWord cs).toList := by
  unfold queryWord
  rw [String.toList_ofList]
  refine Percent.mem_decodeLossy (List.mem_map.mpr ⟨c, mem, ?_⟩) plain.2 notDigit
  simp [plain.1]

/-- A character of a query that says nothing there is in the name or the value of a parameter. -/
theorem mem_queryParameters {c : Char} {query : List Char} (mem : c ∈ query)
    (plain : c ∉ ['&', '=', '+', '%']) (notDigit : hexValue? c = none) :
    ∃ parameter ∈ queryParameters query, c ∈ parameter.1.toList ∨ c ∈ parameter.2.toList := by
  simp only [List.mem_cons, List.not_mem_nil, or_false, not_or] at plain
  obtain ⟨part, among, within⟩ := exists_mem_splitOn mem plain.1
  have kept : part ∈ (query.splitOn '&').filter (· ≠ []) :=
    List.mem_filter.mpr ⟨among, by simpa using List.ne_nil_of_mem within⟩
  refine ⟨_, List.mem_map.mpr ⟨part, kept, rfl⟩, ?_⟩
  exact (mem_splitAtFirst within plain.2.1).imp (mem_queryWord · plain.2.2 notDigit)
    (mem_queryWord · plain.2.2 notDigit)

end WalletLedger.Text
