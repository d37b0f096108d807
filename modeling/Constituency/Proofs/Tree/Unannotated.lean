import Constituency.Proofs.Label
import Constituency.Proofs.Tree.Splicing

/-!
# Trees without annotations

Cutting keeps the first character of a label (`head?_cutChars`), so a label that is cut can neither be cut
again nor be taken for one of an intermediate node. Removing nodes and changing labels leave a tree as it is
if and only if the labels say so (`splice_eq_self_iff`, `mapLabels_eq_self_iff`). So undoing annotations is a
projection onto the trees that have none (`unannotate_projects`).
-/
namespace Constituency

namespace Label

/-- A label begins as before when it is cut. -/
theorem head?_cutChars (cs : List Char) : (cutChars cs).head? = cs.head? := by
  cases cs with
  | nil => rfl
  | cons c cs =>
    rw [cutChars]
    split_ifs <;> rfl

theorem isIntermediate_cut (l : String) : isIntermediate (cut l) = isIntermediate l := by
  rw [isIntermediate, isIntermediate, cut, toList_onChars, head?_cutChars]

theorem cutChars_cutChars (cs : List Char) : cutChars (cutChars cs) = cutChars cs := by
  cases cs with
  | nil => rfl
  | cons c cs =>
    by_cases hcaret : c = '^'
    · simp only [cutChars, if_pos hcaret]
    by_cases hdash : c = '-'
    · simp only [cutChars, if_neg hcaret, if_pos hdash, List.takeWhile_idem]
    · simp only [cutChars, if_neg hcaret, if_neg hdash, List.takeWhile_idem]

/-- A label that has been cut is not cut again. -/
theorem cut_cut (l : String) : cut (cut l) = cut l := by
  rw [← String.toList_inj, cut, toList_onChars, cut, toList_onChars, cutChars_cutChars]

end Label

namespace Tree

variable {p : String → Bool} {f : String → String} {t : Tree}

/-! ### What changes nothing -/

theorem labels_mapLabels (f : String → String) (t : Tree) :
    (t.mapLabels f).labels = t.labels.map f := by
  induction t using Tree.induction with
  | leaf w => simp
  | node l cs ih =>
    rw [mapLabels_node, labels_node, labels_node, List.map_cons, List.flatMap_map, List.map_flatMap]
    exact congrArg (f l :: ·) (List.flatMap_congr ih)

/-- Changing labels leaves a tree as it is if and only if it leaves its labels as they are. -/
theorem mapLabels_eq_self_iff : t.mapLabels f = t ↔ ∀ l ∈ t.labels, f l = l := by
  constructor
  · intro h
    have hlabels : t.labels.map f = t.labels.map id := by
      rw [← labels_mapLabels, h, List.map_id]
    exact List.map_inj_left.mp hlabels
  · intro h
    induction t using Tree.induction with
    | leaf w => simp
    | node l cs ih =>
      rw [labels_node, List.forall_mem_cons, List.forall_mem_flatMap] at h
      have hcs : cs.map (mapLabels f) = cs.map id := List.map_congr_left fun c hc => ih c hc (h.2 c hc)
      rw [mapLabels_node, h.1, hcs, List.map_id]

/-- The labels behind the first one are those below the root. -/
theorem forall_mem_tail_labels {q : String → Prop} :
    (∀ l ∈ t.labels.tail, q l) ↔ ∀ c ∈ t.children, ∀ l ∈ c.labels, q l := by
  cases t with
  | leaf w => simp [children]
  | node l cs => rw [labels_node, List.tail_cons, List.forall_mem_flatMap, children]

theorem spliced_eq_self (h : ∀ l ∈ t.labels, p l = false) : spliced p t = [t] := by
  induction t using Tree.induction with
  | leaf w => rfl
  | node l cs ih =>
    rw [labels_node, List.forall_mem_cons, List.forall_mem_flatMap] at h
    have hcs : cs.flatMap (spliced p) = cs.flatMap fun c => [c] :=
      List.flatMap_congr fun c hc => ih c hc (h.2 c hc)
    rw [spliced, if_neg (Bool.eq_false_iff.mp h.1), splicedAll_eq, hcs, List.flatMap_singleton']

/-- Removing nodes leaves a tree as it is if and only if no label below the root is chosen. -/
theorem splice_eq_self_iff : t.splice p = t ↔ ∀ c ∈ t.children, ∀ l ∈ c.labels, p l = false := by
  cases t with
  | leaf w => simp [splice, children]
  | node l cs =>
    rw [← forall_mem_tail_labels]
    constructor
    · intro h
      have hlabels := labels_splice p (node l cs)
      rw [h, labels_node, label?, Option.toList_some, List.singleton_append, List.tail_cons,
        List.cons.injEq] at hlabels
      simpa using List.filter_eq_self.mp hlabels.2.symm
    · intro h
      have hcs : cs.flatMap (spliced p) = cs.flatMap fun c => [c] :=
        List.flatMap_congr fun c hc => spliced_eq_self (forall_mem_tail_labels.mp h c hc)
      rw [splice, splicedAll_eq, hcs, List.flatMap_singleton']

/-! ### Trees that are left as they are -/

/-- A tree without intermediate nodes, except for its root, and without annotations. -/
structure IsUnannotated (t : Tree) : Prop where
  below_root : ∀ c ∈ t.children, ∀ l ∈ c.labels, Label.isIntermediate l = false
  labels : ∀ l ∈ t.labels, Label.cut l = l

theorem labels_unannotate (t : Tree) : t.unannotate.labels =
    (t.label?.toList ++ t.labels.tail.filter fun l => !Label.isIntermediate l).map Label.cut := by
  rw [unannotate, cutLabels, labels_mapLabels, labels_splice]

theorem isUnannotated_unannotate (t : Tree) : t.unannotate.IsUnannotated := by
  constructor
  · rw [← forall_mem_tail_labels, labels_unannotate]
    cases t with
    | leaf w => simp [label?]
    | node l cs =>
      rw [label?, Option.toList_some, List.singleton_append, List.map_cons, List.tail_cons,
        List.forall_mem_map]
      intro m hm
      rw [Label.isIntermediate_cut]
      simpa using (List.mem_filter.mp hm).2
  · rw [labels_unannotate, List.forall_mem_map]
    exact fun l _ => Label.cut_cut l

theorem unannotate_eq_self_iff : t.unannotate = t ↔ t.IsUnannotated := by
  constructor
  · intro h
    exact h ▸ isUnannotated_unannotate t
  · intro h
    rw [unannotate, splice_eq_self_iff.mpr h.below_root, cutLabels, mapLabels_eq_self_iff.mpr h.labels]

/-- Undoing annotations keeps the leaves and leaves no annotation, changes exactly the trees that have some,
and has nothing to do a second time. -/
theorem unannotate_projects (t : Tree) :
    t.unannotate.leaves = t.leaves ∧
    t.unannotate.IsUnannotated ∧
    (t.unannotate = t ↔ t.IsUnannotated) ∧
    t.unannotate.unannotate = t.unannotate :=
  ⟨leaves_unannotate t, isUnannotated_unannotate t, unannotate_eq_self_iff,
    unannotate_eq_self_iff.mpr (isUnannotated_unannotate t)⟩

end Tree

end Constituency
