import Constituency.Proofs.Label
import Constituency.Proofs.Tree.Leaves
import Constituency.Proofs.Tree.Traversal

/-!
# Annotating and undoing it

Undoing an annotation removes the chains of intermediate nodes (`splicedAll_factor`), so that what comes
back of a node is what comes back of its children, under the label that its annotation leaves when it is
cut (`restored_node`). A node is lost if its own label looks like that of an intermediate node. Nothing is
ever added, so no loss can be made up for elsewhere (`flatMap_eq_self_iff`): a tree comes back if and only
if all its labels do.
-/
namespace Constituency.Tree

theorem annotateAll_eq (mark : String) (cs : List Tree) :
    annotateAll mark cs = cs.map fun c => (siblingLabel mark c, annotateUnder mark c) := by
  induction cs with
  | nil => rfl
  | cons c cs ih => rw [annotateAll, ih, List.map_cons]

/-- The nodes of a chain are removed, and the trees that it holds take their place. -/
theorem splicedAll_chain {l h : String} (hh : Label.IsHistoryOf l h) (cs : List (String × Tree)) :
    splicedAll Label.isIntermediate (chain h cs) =
      splicedAll Label.isIntermediate (cs.map Prod.snd) := by
  induction cs generalizing h with
  | nil => rfl
  | cons c cs ih =>
    cases cs with
    | nil => simp [chain, splicedAll, spliced, hh.isIntermediate]
    | cons d cs =>
      have hrest := ih (hh.extend c.1)
      rw [chain, splicedAll, splicedAll, List.append_nil, spliced, if_pos hh.isIntermediate,
        splicedAll, hrest]
      rfl

theorem splicedAll_factor (l : String) (cs : List (String × Tree)) :
    splicedAll Label.isIntermediate (factor l cs) =
      splicedAll Label.isIntermediate (cs.map Prod.snd) := by
  match cs with
  | [] => rfl
  | [c] => rfl
  | c :: d :: cs =>
    rw [factor, splicedAll, splicedAll_chain (.extend c.1 .empty)]
    rfl

/-- What comes back of a subtree that was annotated below a parent. -/
def restored (mark : String) (t : Tree) : List Tree :=
  (spliced Label.isIntermediate (annotateUnder mark t)).map cutLabels

theorem map_splicedAll_factor (l mark : String) (cs : List Tree) :
    (splicedAll Label.isIntermediate (factor l (annotateAll mark cs))).map cutLabels =
      cs.flatMap (restored mark) := by
  rw [splicedAll_factor, splicedAll_eq, annotateAll_eq, List.map_map, List.flatMap_map,
    List.map_flatMap]
  rfl

@[simp] theorem restored_leaf (mark : String) (w : Word) : restored mark (leaf w) = [leaf w] := by
  simp [restored, annotateUnder, spliced, cutLabels]

theorem restored_node (mark l : String) (cs : List Tree) :
    restored mark (node l cs) =
      if Label.isIntermediate (Label.withParent l mark) then
        cs.flatMap (restored (Label.parentMark (Label.withParent l mark)))
      else [node (Label.cut (Label.withParent l mark))
        (cs.flatMap (restored (Label.parentMark (Label.withParent l mark))))] := by
  rw [restored, annotateUnder, spliced]
  split_ifs with hinter
  · exact map_splicedAll_factor _ _ cs
  · rw [List.map_singleton, cutLabels, mapLabels, mapLabelsAll_eq]
    exact congrArg (fun ds => [node _ ds]) (map_splicedAll_factor _ _ cs)

theorem unannotate_annotate_node (l : String) (cs : List Tree) :
    (node l cs).annotate.unannotate =
      node (Label.cut l) (cs.flatMap (restored (Label.parentMark l))) := by
  rw [annotate, unannotate, splice, cutLabels, mapLabels, mapLabelsAll_eq]
  exact congrArg (node _) (map_splicedAll_factor _ _ cs)

theorem sizeAll_flatMap_le {f : Tree → List Tree} {cs : List Tree}
    (h : ∀ c ∈ cs, sizeAll (f c) ≤ c.size) : sizeAll (cs.flatMap f) ≤ sizeAll cs := by
  induction cs with
  | nil => exact Nat.le_refl _
  | cons c cs ih =>
    rw [List.forall_mem_cons] at h
    rw [List.flatMap_cons, sizeAll_append, sizeAll]
    exact Nat.add_le_add h.1 (ih h.2)

/-- When no tree grows, a list of trees stays the same only if each one of them does. -/
theorem flatMap_eq_self_iff {f : Tree → List Tree} {cs : List Tree}
    (h : ∀ c ∈ cs, sizeAll (f c) ≤ c.size) : cs.flatMap f = cs ↔ ∀ c ∈ cs, f c = [c] := by
  induction cs with
  | nil => simp
  | cons c cs ih =>
    rw [List.forall_mem_cons] at h
    rw [List.forall_mem_cons, ← ih h.2, List.flatMap_cons]
    constructor
    · intro hall
      have hc := h.1
      have hcs := sizeAll_flatMap_le h.2
      cases hfirst : f c with
      | nil =>
        -- The others would have to make up for the lost tree.
        rw [hfirst, List.nil_append] at hall
        rw [hall, sizeAll] at hcs
        have := c.size_pos
        omega
      | cons d ds =>
        rw [hfirst, List.cons_append, List.cons.injEq] at hall
        obtain ⟨rfl, hrest⟩ := hall
        cases ds with
        | nil => exact ⟨rfl, hrest⟩
        | cons e es =>
          rw [hfirst, sizeAll, sizeAll] at hc
          have := e.size_pos
          omega
    · rintro ⟨hfirst, hrest⟩
      rw [hfirst, hrest, List.singleton_append]

/-- Nothing is added by annotating a subtree and undoing it. -/
theorem sizeAll_restored_le (mark : String) (t : Tree) : sizeAll (restored mark t) ≤ t.size := by
  induction t using Tree.induction generalizing mark with
  | leaf w => rw [restored_leaf, sizeAll, sizeAll, Nat.add_zero]
  | node l cs ih =>
    have hcs := sizeAll_flatMap_le fun c hc =>
      ih c hc (Label.parentMark (Label.withParent l mark))
    rw [restored_node]
    split_ifs
    · rw [size]
      omega
    · rw [sizeAll, sizeAll, size, size]
      omega

/-- A subtree comes back if and only if all its labels do. -/
theorem restored_eq_iff (mark : String) (t : Tree) :
    restored mark t = [t] ↔ ∀ u ∈ t.nodes, ∀ l, u.label? = some l → Label.IsRestorable l := by
  induction t using Tree.induction generalizing mark with
  | leaf w => simp
  | node l cs ih =>
    have hparts : cs.flatMap (restored (Label.parentMark (Label.withParent l mark))) = cs ↔
        ∀ c ∈ cs, ∀ u ∈ c.nodes, ∀ l, u.label? = some l → Label.IsRestorable l := by
      rw [flatMap_eq_self_iff fun c _ => sizeAll_restored_le _ c]
      exact forall₂_congr fun c hc => ih c hc _
    have hlabel := Label.restores_iff l mark
    rw [restored_node, nodes_node, List.forall_mem_cons, List.forall_mem_flatMap, ← hparts, label?]
    split_ifs with hinter
    · -- The node itself is removed, and its children are too small to stand for it.
      have hsmall := sizeAll_flatMap_le fun c (_ : c ∈ cs) =>
        sizeAll_restored_le (Label.parentMark (Label.withParent l mark)) c
      constructor
      · intro hall
        rw [hall, sizeAll, size, sizeAll] at hsmall
        omega
      · rintro ⟨hl, -⟩
        have hkept := (hlabel.mpr (hl l rfl)).1
        rw [hinter] at hkept
        exact absurd hkept (by decide)
    · rw [Bool.not_eq_true] at hinter
      rw [hinter] at hlabel
      simp only [true_and] at hlabel
      simp [hlabel]

mutual

theorem hasHistories_of_leaves : ∀ t : Tree, (∀ w ∈ t.leaves, w ≠ none) → t.hasHistories = true
  | leaf w, _ => by rw [hasHistories]
  | node l cs, h => by
      rw [hasHistories]
      exact allHaveHistories_of_leaves cs (by simpa [leaves] using h)

theorem allHaveHistories_of_leaves :
    ∀ cs : List Tree, (∀ w ∈ leavesAll cs, w ≠ none) → allHaveHistories cs = true
  | [], _ => by rw [allHaveHistories]
  | [c], h => by
      rw [allHaveHistories]
      exact hasHistories_of_leaves c (by simpa [leavesAll] using h)
  | c :: d :: cs, h => by
      rw [leavesAll, List.forall_mem_append] at h
      have hc := hasHistories_of_leaves c h.1
      rw [allHaveHistories, allHaveHistories_of_leaves (d :: cs) h.2, Bool.and_true]
      · exact hc
      · rintro rfl
        exact h.1 none (by simp) rfl

end

/-- A tree comes back if and only if its root keeps its label and all labels below come back. -/
theorem unannotate_annotate_eq_iff (t : Tree) : t.annotate.unannotate = t ↔
    (∀ l, t.label? = some l → Label.cut l = l) ∧
      ∀ c ∈ t.children, ∀ u ∈ c.nodes, ∀ l, u.label? = some l → Label.IsRestorable l := by
  cases t with
  | leaf w => simp [annotate, unannotate, splice, cutLabels, label?, children]
  | node l cs =>
    rw [unannotate_annotate_node, node.injEq,
      flatMap_eq_self_iff fun c _ => sizeAll_restored_le _ c]
    exact and_congr (by simp [label?]) (forall₂_congr fun c _ => restored_eq_iff _ c)

/-- A tree over words has an annotated form, and undoing the annotation brings the tree back if and only
if cutting leaves the label of its root as it is and every other label is not empty, has no `^`, does not
begin with `@`, and begins with `-` or has no `-`. -/
theorem unannotate_annotate_iff (t : Tree) (hwords : ∀ w ∈ t.leaves, w ≠ none) :
    ∃ a, t.annotate? = some a ∧
      (a.unannotate = t ↔ (∀ l, t.label? = some l → Label.cut l = l) ∧
        ∀ c ∈ t.children, ∀ u ∈ c.nodes, ∀ l, u.label? = some l → Label.IsRestorable l) :=
  ⟨t.annotate, by rw [annotate?, if_pos (hasHistories_of_leaves t hwords)],
    unannotate_annotate_eq_iff t⟩

/-- A tree with a node over two leaves and a node without children. -/
def unevenTree : Tree := node "S" [node "NP" [ofWord "a", ofWord "b"], node "-X" []]

theorem unannotate_annotate_unevenTree : (∀ w ∈ unevenTree.leaves, w ≠ none) ∧
    ∃ a, unevenTree.annotate? = some a ∧ a.unannotate = unevenTree := by
  have hwords : ∀ w ∈ unevenTree.leaves, w ≠ none := by simp [unevenTree]
  obtain ⟨a, ha, hiff⟩ := unannotate_annotate_iff unevenTree hwords
  refine ⟨hwords, a, ha, hiff.mpr ⟨?_, ?_⟩⟩
  · simp only [unevenTree, label?]
    rintro l ⟨rfl⟩
    decide
  · simp [unevenTree, children, label?, Label.IsRestorable]

end Constituency.Tree
