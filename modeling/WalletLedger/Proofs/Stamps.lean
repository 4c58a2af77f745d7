import WalletLedger.Supply

/-!
# The order of stamps

A row is made under a stamp: a new identifier, and the time at one look at the
clock. A list of stamps is `Issued` by a supply when its identifiers and its
times were taken from it in this order, perhaps with others in between: then
its identifiers differ (`Issued.nodup_ids`), its times grow
(`Issued.pairwise_time`), and what is taken next is new to it (`Issued.fresh`,
`Issued.ne_instant`). A supply comes after another when more was taken from the
same source.
-/

namespace WalletLedger

namespace Timestamp

variable {s t u : Timestamp}

theorem le_trans (h : s ≤ t) (h' : t ≤ u) : s ≤ u := by
  show _ < _ ∨ _
  change _ < _ ∨ _ at h h'
  omega

theorem le_total (s t : Timestamp) : s ≤ t ∨ t ≤ s := by
  show (_ < _ ∨ _) ∨ _ < _ ∨ _
  omega

/-- One time is truly before another. -/
def Precedes (s t : Timestamp) : Prop := s ≤ t ∧ ¬ t ≤ s

end Timestamp

namespace Source

variable {s : Source} {m n : Nat}

/-- The stamp that an identifier and a look at the clock make. -/
def stamp (s : Source) (id look : Nat) : Stamp := ⟨s.id id, s.instant look⟩

theorem instant_inj : s.instant m = s.instant n ↔ m = n := by
  have within {m n : Nat} (same : s.instant m = s.instant n) : m ≤ n :=
    s.instant_le_iff.mp (same ▸ s.instant_le_iff.mpr (Nat.le_refl m))
  exact ⟨fun same => Nat.le_antisymm (within same) (within same.symm), fun same => same ▸ rfl⟩

theorem instant_precedes (lt : m < n) : (s.instant m).Precedes (s.instant n) :=
  ⟨s.instant_le_iff.mpr (Nat.le_of_lt lt),
    fun le => Nat.not_le_of_lt lt (s.instant_le_iff.mp le)⟩

end Source

namespace Supply

variable {s t u : Supply}

/-- The supply after something was taken from it. -/
def spend (s : Supply) (ids looks : Nat) : Supply :=
  { s with ids := s.ids + ids, looks := s.looks + looks }

/-- More was taken from one supply than from the other, and both are of one source. -/
structure Precedes (s t : Supply) : Prop where
  source : t.source = s.source
  ids : s.ids ≤ t.ids
  looks : s.looks ≤ t.looks

instance : LE Supply := ⟨Precedes⟩

theorem le_refl (s : Supply) : s ≤ s := ⟨rfl, Nat.le_refl _, Nat.le_refl _⟩

theorem le_trans (h : s ≤ t) (h' : t ≤ u) : s ≤ u :=
  ⟨h'.source.trans h.source, Nat.le_trans h.ids h'.ids, Nat.le_trans h.looks h'.looks⟩

theorem le_spend (s : Supply) (ids looks : Nat) : s ≤ s.spend ids looks :=
  ⟨rfl, Nat.le_add_right _ _, Nat.le_add_right _ _⟩

/-- The supply for books that list their rows as they were made: no map changes their order. -/
def inOrder (s : Supply) : Supply :=
  { s with source := { s.source with
      walletOrder := id, articleOrder := id
      walletOrder_perm := List.Perm.refl, articleOrder_perm := List.Perm.refl } }

/-- The next identifier, and the time that the clock shows next. -/
def next (s : Supply) : Stamp := s.source.stamp s.ids s.looks

/-- An identifier was taken from a supply. -/
def Gave (s : Supply) (id : String) : Prop := ∃ n < s.ids, id = s.source.id n

/-- The clock of a supply has shown a time. -/
def Showed (s : Supply) (time : Timestamp) : Prop := ∃ look < s.looks, time = s.source.instant look

/-- A supply is still to give an identifier. -/
def Offers (s : Supply) (id : String) : Prop := ∃ n, s.ids ≤ n ∧ id = s.source.id n

variable {id : String} {time : Timestamp}

theorem Offers.of_le (h : t.Offers id) (le : s ≤ t) : s.Offers id := by
  obtain ⟨n, later, rfl⟩ := h
  exact ⟨n, Nat.le_trans le.ids later, by rw [le.source]⟩

theorem offers_next (s : Supply) : s.Offers s.next.id := ⟨s.ids, Nat.le_refl _, rfl⟩

/-- What was taken is not offered again. -/
theorem not_offers_next (s : Supply) (ids looks : Nat) :
    ¬ (s.spend (ids + 1) looks).Offers s.next.id := by
  rintro ⟨n, later, same⟩
  have taken : s.ids < n := Nat.lt_of_lt_of_le (Nat.lt_add_of_pos_right ids.succ_pos) later
  exact Nat.ne_of_lt taken (s.source.id_injective same)

theorem Gave.mono (h : s.Gave id) (le : s ≤ t) : t.Gave id := by
  obtain ⟨n, taken, rfl⟩ := h
  exact ⟨n, Nat.lt_of_lt_of_le taken le.ids, by rw [le.source]⟩

theorem Showed.mono (h : s.Showed time) (le : s ≤ t) : t.Showed time := by
  obtain ⟨look, shown, rfl⟩ := h
  exact ⟨look, Nat.lt_of_lt_of_le shown le.looks, by rw [le.source]⟩

/-- The next identifier is a new one. -/
theorem Gave.ne_next (h : s.Gave id) : id ≠ s.next.id := by
  obtain ⟨n, taken, rfl⟩ := h
  exact fun same => Nat.ne_of_lt taken (s.source.id_injective same)

/-- What the clock shows later is later. -/
theorem Showed.precedes (h : s.Showed time) (look : Nat) :
    time.Precedes (s.source.instant (s.looks + look)) := by
  obtain ⟨earlier, shown, rfl⟩ := h
  exact Source.instant_precedes (Nat.lt_add_right look shown)

end Supply

/-- Stamps whose identifiers and times were taken from a supply in this order. -/
def Issued (s : Supply) (stamps : List Stamp) : Prop :=
  ∃ ns : List (Nat × Nat), ns.Pairwise (fun m n => m.1 < n.1 ∧ m.2 < n.2) ∧
    (∀ n ∈ ns, n.1 < s.ids ∧ n.2 < s.looks) ∧ stamps = ns.map fun n => s.source.stamp n.1 n.2

namespace Issued

variable {s t : Supply} {stamps : List Stamp}

theorem nil (s : Supply) : Issued s [] :=
  ⟨[], .nil, by simp, rfl⟩

theorem mono (h : Issued s stamps) (le : s ≤ t) : Issued t stamps := by
  obtain ⟨ns, sorted, bound, rfl⟩ := h
  refine ⟨ns, sorted, fun n hn => ?_, by rw [le.source]⟩
  exact ⟨Nat.lt_of_lt_of_le (bound n hn).1 le.ids, Nat.lt_of_lt_of_le (bound n hn).2 le.looks⟩

/-- Something else is taken. -/
theorem spend (h : Issued s stamps) (ids looks : Nat) : Issued (s.spend ids looks) stamps :=
  h.mono (s.le_spend ids looks)

/-- A stamp is made of the next identifier and one of the next looks at the clock. -/
theorem append (h : Issued s stamps) {look looks : Nat} (lt : look < looks) :
    Issued (s.spend 1 looks) (stamps ++ [s.source.stamp s.ids (s.looks + look)]) := by
  obtain ⟨ns, sorted, bound, rfl⟩ := h
  refine ⟨ns ++ [(s.ids, s.looks + look)], ?_, fun n hn => ?_, by simp [Supply.spend]⟩
  · refine List.pairwise_append.mpr ⟨sorted, List.pairwise_singleton _ _, fun m hm n hn => ?_⟩
    rw [List.mem_singleton.mp hn]
    exact ⟨(bound m hm).1, Nat.lt_add_right look (bound m hm).2⟩
  · rcases List.mem_append.mp hn with hn | hn
    · exact ⟨Nat.lt_succ_of_lt (bound n hn).1, Nat.lt_add_right looks (bound n hn).2⟩
    · rw [List.mem_singleton.mp hn]
      exact ⟨Nat.lt_succ_self _, Nat.add_lt_add_left lt _⟩

theorem nodup_ids (h : Issued s stamps) : (stamps.map (·.id)).Nodup := by
  obtain ⟨ns, sorted, -, rfl⟩ := h
  rw [List.map_map]
  refine List.pairwise_map.mpr (sorted.imp fun {m n} lt e => ?_)
  exact Nat.ne_of_lt lt.1 (s.source.id_injective e)

theorem pairwise_time (h : Issued s stamps) :
    stamps.Pairwise fun s t => s.time.Precedes t.time := by
  obtain ⟨ns, sorted, -, rfl⟩ := h
  exact List.pairwise_map.mpr (sorted.imp fun lt => Source.instant_precedes lt.2)

/-- The next identifier is one that no earlier stamp has. -/
theorem fresh (h : Issued s stamps) : s.next.id ∉ stamps.map (·.id) := by
  obtain ⟨ns, -, bound, rfl⟩ := h
  simp only [List.map_map, List.mem_map, Function.comp_apply, not_exists, not_and]
  intro n hn e
  exact Nat.ne_of_lt (bound n hn).1 (s.source.id_injective e)

/-- Every stamp has its numbers. -/
theorem exists_number (h : Issued s stamps) {t : Stamp} (mem : t ∈ stamps) :
    ∃ id < s.ids, ∃ look < s.looks, t = s.source.stamp id look := by
  obtain ⟨ns, -, bound, rfl⟩ := h
  obtain ⟨n, taken, rfl⟩ := List.mem_map.mp mem
  exact ⟨n.1, (bound n taken).1, n.2, (bound n taken).2, rfl⟩

/-- What the clock shows later is a time that no earlier stamp has. -/
theorem ne_instant (h : Issued s stamps) {t : Stamp} (mem : t ∈ stamps) (look : Nat) :
    t.time ≠ s.source.instant (s.looks + look) := by
  obtain ⟨id, -, earlier, taken, rfl⟩ := h.exists_number mem
  intro same
  have : earlier = s.looks + look := Source.instant_inj.mp same
  omega

end Issued

end WalletLedger
