import Constituency.Chart.Fill
import Mathlib.Data.List.Basic
import Mathlib.Tactic.Linarith

/-!
# Filling cell by cell

Every span is filled once, after all shorter ones. Filling it writes its own cell only, so in the end
every cell is what it would be if it were filled from the finished chart (`cell_foldl_fillSpan`).
-/
namespace Constituency.Chart

variable {σ : Type} [Score σ]

/-! ### Cells -/

/-- A chart that has a cell for every pair of places between words. -/
def IsSquare (c : Chart σ) : Prop := c.cells.size = (c.length + 1) * (c.length + 1)

omit [Score σ] in
theorem index_lt (c : Chart σ) {i j : Nat} (hi : i ≤ c.length) (hj : j ≤ c.length) :
    c.index i j < (c.length + 1) * (c.length + 1) := by
  unfold index
  nlinarith

omit [Score σ] in
/-- Different spans have different places. -/
theorem index_inj (c : Chart σ) {i j k l : Nat} (hj : j ≤ c.length) (hl : l ≤ c.length) :
    c.index i j = c.index k l ↔ i = k ∧ j = l := by
  unfold index
  constructor
  · intro h
    have hik : i = k := by
      have hdiv := congrArg (· / (c.length + 1)) h
      simpa [Nat.mul_comm _ (c.length + 1), Nat.mul_add_div, Nat.div_eq_of_lt (Nat.lt_succ_of_le hj),
        Nat.div_eq_of_lt (Nat.lt_succ_of_le hl)] using hdiv
    subst hik
    exact ⟨rfl, Nat.add_left_cancel h⟩
  · rintro ⟨rfl, rfl⟩
    rfl

section SetCell

variable {c : Chart σ} {i j k l : Nat} {new old : Cell σ}

theorem cell_setCell_self (hc : c.IsSquare) (hi : i ≤ c.length) (hj : j ≤ c.length) :
    (c.setCell i j new).cell i j = new := by
  have hlt : c.index i j < c.cells.size := hc ▸ c.index_lt hi hj
  have hindex : (c.setCell i j new).index i j = c.index i j := rfl
  unfold cell
  rw [hindex]
  simp [setCell, hlt]

theorem cell_setCell_ne (hj : j ≤ c.length) (hl : l ≤ c.length) (h : ¬(i = k ∧ j = l)) :
    (c.setCell i j new).cell k l = c.cell k l := by
  have hne : c.index i j ≠ c.index k l := (c.index_inj hj hl).not.mpr h
  have hindex : (c.setCell i j new).index k l = c.index k l := rfl
  unfold cell
  rw [hindex]
  simp [setCell, Array.getElem?_setIfInBounds_ne hne, Array.getD_eq_getD_getElem?]

omit [Score σ] in
theorem setCell_setCell : (c.setCell i j old).setCell i j new = c.setCell i j new := by
  have hindex : (c.setCell i j old).index i j = c.index i j := rfl
  rw [setCell, hindex, setCell, setCell, Array.setIfInBounds_setIfInBounds]

theorem setCell_cell (hc : c.IsSquare) (hi : i ≤ c.length) (hj : j ≤ c.length) :
    c.setCell i j (c.cell i j) = c := by
  have hlt : c.index i j < c.cells.size := hc ▸ c.index_lt hi hj
  unfold setCell cell
  congr 1
  refine Array.ext (by simp) fun m hm _ => ?_
  by_cases hmi : c.index i j = m
  · subst hmi
    simp [hlt]
  · rw [Array.getElem_setIfInBounds, if_neg hmi]

omit [Score σ] in
theorem IsSquare.setCell (hc : c.IsSquare) (i j : Nat) (new : Cell σ) :
    (c.setCell i j new).IsSquare := by
  unfold IsSquare Chart.setCell
  rw [Array.size_setIfInBounds]
  exact hc

end SetCell

/-! ### Spans -/

/-- The order in which spans are filled: by their width, and by their start. -/
def Precedes (s t : Nat × Nat) : Prop :=
  s.2 - s.1 < t.2 - t.1 ∨ s.2 - s.1 = t.2 - t.1 ∧ s.1 < t.1

theorem Precedes.le {s t : Nat × Nat} (h : Precedes s t) : s.2 - s.1 ≤ t.2 - t.1 := by
  rcases h with h | ⟨h, -⟩
  · exact h.le
  · exact h.le

theorem Precedes.ne {s t : Nat × Nat} (h : Precedes s t) : s ≠ t := by
  rintro rfl
  rcases h with h | ⟨-, h⟩
  · exact lt_irrefl _ h
  · exact lt_irrefl _ h

theorem mem_spans {n : Nat} {s : Nat × Nat} : s ∈ spans n ↔ s.1 < s.2 ∧ s.2 ≤ n := by
  obtain ⟨i, j⟩ := s
  simp only [spans, List.mem_flatMap, List.mem_range'_1, List.mem_map, List.mem_range,
    Prod.mk.injEq]
  constructor
  · rintro ⟨width, ⟨hlo, hhi⟩, start, hstart, rfl, rfl⟩
    omega
  · rintro ⟨hij, hj⟩
    exact ⟨j - i, by omega, i, by omega, rfl, by omega⟩

theorem pairwise_spans (n : Nat) : (spans n).Pairwise Precedes := by
  unfold spans
  rw [List.pairwise_flatMap]
  constructor
  · intro width hwidth
    rw [List.pairwise_map]
    refine List.pairwise_lt_range.imp fun hab => Or.inr ⟨?_, hab⟩
    simp
  · refine (List.pairwise_lt_range' 1).imp fun hab => ?_
    rintro _ hx _ hy
    obtain ⟨a, -, rfl⟩ := List.mem_map.mp hx
    obtain ⟨b, -, rfl⟩ := List.mem_map.mp hy
    exact Or.inl (by simpa using hab)

/-! ### Filling -/

/-- Charts that differ in their cells only. -/
structure SameInput (c d : Chart σ) : Prop where
  sentence : d.sentence = c.sentence
  grammar : d.grammar = c.grammar
  closure : d.closure = c.closure
  root : d.root = c.root

/-- The cell over a span, as it is filled from the cells of the chart. -/
def content (tags : List (List σ)) (c : Chart σ) (span : Nat × Nat) : Cell σ :=
  if span.2 = span.1 + 1 then c.wordCell (tags.getD span.1 []) else c.spanCell span.1 span.2

theorem fillSpan_eq (tags : List (List σ)) (c : Chart σ) (span : Nat × Nat) :
    fillSpan tags c span = c.setCell span.1 span.2 (content tags c span) := rfl

theorem sameInput_foldl (tags : List (List σ)) (ss : List (Nat × Nat)) (c : Chart σ) :
    c.SameInput (ss.foldl (fillSpan tags) c) := by
  induction ss generalizing c with
  | nil => exact ⟨rfl, rfl, rfl, rfl⟩
  | cons s ss ih =>
    obtain ⟨hs, hg, hcl, hr⟩ := ih (fillSpan tags c s)
    exact ⟨hs, hg, hcl, hr⟩

/-- A cell depends on the cells of the parts of its span. -/
theorem content_congr (tags : List (List σ)) {c d : Chart σ} (h : c.SameInput d) {s : Nat × Nat}
    (hcells : ∀ k, s.1 < k → k < s.2 → d.cell s.1 k = c.cell s.1 k ∧ d.cell k s.2 = c.cell k s.2) :
    content tags d s = content tags c s := by
  have hbinary : d.binaryLayer s.1 s.2 = c.binaryLayer s.1 s.2 := by
    unfold binaryLayer
    rw [h.grammar]
    refine List.foldl_ext _ _ _ fun l k hk => ?_
    rw [List.mem_range'_1] at hk
    obtain ⟨hleft, hright⟩ := hcells k (by omega) (by omega)
    rw [hleft, hright]
  unfold content wordCell spanCell
  rw [hbinary, h.grammar, h.closure]

/-- Filling spans leaves all other cells as they are. -/
theorem cell_foldl_of_notMem (tags : List (List σ)) (ss : List (Nat × Nat)) (c : Chart σ)
    (hin : ∀ s ∈ ss, s.2 ≤ c.length) {i j : Nat} (hj : j ≤ c.length) (h : (i, j) ∉ ss) :
    (ss.foldl (fillSpan tags) c).cell i j = c.cell i j := by
  induction ss generalizing c with
  | nil => rfl
  | cons s ss ih =>
    rw [List.mem_cons, not_or] at h
    rw [List.foldl_cons, ih (fillSpan tags c s) (fun t ht => hin t (by simp [ht])) hj h.2,
      fillSpan_eq, cell_setCell_ne (hin s (by simp)) hj]
    rintro ⟨rfl, rfl⟩
    exact h.1 rfl

/-- A filled cell is what it would be if it were filled from the finished chart. -/
theorem cell_foldl_fillSpan (tags : List (List σ)) (ss : List (Nat × Nat)) (c : Chart σ)
    (hc : c.IsSquare) (hin : ∀ s ∈ ss, s.1 < s.2 ∧ s.2 ≤ c.length) (hss : ss.Pairwise Precedes)
    {s : Nat × Nat} (hs : s ∈ ss) :
    (ss.foldl (fillSpan tags) c).cell s.1 s.2 =
      content tags (ss.foldl (fillSpan tags) c) s := by
  induction ss generalizing c with
  | nil => simp at hs
  | cons t ss ih =>
    rw [List.pairwise_cons] at hss
    have hin' : ∀ s ∈ ss, s.1 < s.2 ∧ s.2 ≤ (fillSpan tags c t).length :=
      fun s hs => hin s (by simp [hs])
    rcases List.mem_cons.mp hs with rfl | hs
    · obtain ⟨hlt, hle⟩ := hin s (by simp)
      -- The parts of a span are shorter, so none of them is filled from here on.
      have hstay : ∀ i j, j ≤ c.length → j - i < s.2 - s.1 ∨ (i, j) = s →
          (i, j) ∉ ss := by
        intro i j hj hij hmem
        have h := hss.1 (i, j) hmem
        rcases hij with hij | rfl
        · exact not_lt.mpr h.le hij
        · exact h.ne rfl
      have hkeep : ∀ i j, j ≤ c.length → j - i < s.2 - s.1 →
          (ss.foldl (fillSpan tags) (fillSpan tags c s)).cell i j = c.cell i j := by
        intro i j hj hij
        rw [cell_foldl_of_notMem tags ss _ (fun t ht => (hin' t ht).2) hj (hstay i j hj (Or.inl hij)),
          fillSpan_eq, cell_setCell_ne hle hj]
        rintro ⟨rfl, rfl⟩
        omega
      rw [List.foldl_cons, cell_foldl_of_notMem tags ss _ (fun t ht => (hin' t ht).2) hle
        (hstay s.1 s.2 hle (Or.inr rfl)), fillSpan_eq, cell_setCell_self hc (by omega) hle]
      refine (content_congr tags (sameInput_foldl tags (s :: ss) c) fun k hlo hhi => ?_).symm
      exact ⟨hkeep _ _ (by omega) (by omega), hkeep _ _ (by omega) (by omega)⟩
    · exact ih (fillSpan tags c t) (hc.setCell _ _ _) hin' hss.2 hs

end Constituency.Chart
