import Constituency.Tree.Binarize

/-!
# Leaves of changed trees

Changing labels and removing nodes keeps the leaves of a tree and their order, and so do a binarization
and undoing it.
-/
namespace Constituency.Tree

theorem splicedAll_eq (p : String → Bool) (cs : List Tree) :
    splicedAll p cs = cs.flatMap (spliced p) := by
  induction cs with
  | nil => rfl
  | cons c cs ih => rw [splicedAll, ih, List.flatMap_cons]

theorem leavesAll_append (cs ds : List Tree) :
    leavesAll (cs ++ ds) = leavesAll cs ++ leavesAll ds := by
  simp [leavesAll_eq]

mutual

theorem leaves_mapLabels (f : String → String) : ∀ t : Tree, (t.mapLabels f).leaves = t.leaves
  | leaf w => by rw [mapLabels_leaf]
  | node l cs => by rw [mapLabels, leaves, leavesAll_mapLabelsAll f cs, leaves]

theorem leavesAll_mapLabelsAll (f : String → String) :
    ∀ cs : List Tree, leavesAll (mapLabelsAll f cs) = leavesAll cs
  | [] => by rw [mapLabelsAll]
  | c :: cs => by
      rw [mapLabelsAll, leavesAll, leaves_mapLabels f c, leavesAll_mapLabelsAll f cs, leavesAll]

end

mutual

theorem leavesAll_spliced (p : String → Bool) : ∀ t : Tree, leavesAll (spliced p t) = t.leaves
  | leaf w => by simp [spliced, leavesAll]
  | node l cs => by
      have hcs := leavesAll_splicedAll p cs
      rw [spliced]
      split
      · rw [hcs, leaves]
      · simp only [leavesAll, leaves, hcs, List.append_nil]

theorem leavesAll_splicedAll (p : String → Bool) :
    ∀ cs : List Tree, leavesAll (splicedAll p cs) = leavesAll cs
  | [] => by rw [splicedAll]
  | c :: cs => by
      rw [splicedAll, leavesAll_append, leavesAll_spliced p c, leavesAll_splicedAll p cs, leavesAll]

end

theorem leaves_splice (p : String → Bool) (t : Tree) : (t.splice p).leaves = t.leaves := by
  cases t with
  | leaf w => rfl
  | node l cs => rw [splice, leaves, leavesAll_splicedAll, leaves]

/-- A tree without intermediate nodes and annotations has the same leaves. -/
theorem leaves_unannotate (t : Tree) : t.unannotate.leaves = t.leaves := by
  rw [unannotate, cutLabels, leaves_mapLabels, leaves_splice]

theorem leavesAll_chain (history : String) (cs : List (String × Tree)) :
    leavesAll (chain history cs) = leavesAll (cs.map Prod.snd) := by
  induction cs generalizing history with
  | nil => rfl
  | cons c cs ih =>
    cases cs with
    | nil => simp [chain, leavesAll_eq]
    | cons d cs =>
      have hrest := ih (Label.extendHistory history c.1)
      rw [chain, leavesAll, leaves, leavesAll, leavesAll, hrest, List.append_nil]
      rfl

theorem leavesAll_factor (label : String) (cs : List (String × Tree)) :
    leavesAll (factor label cs) = leavesAll (cs.map Prod.snd) := by
  match cs with
  | [] => rfl
  | [c] => rfl
  | c :: d :: cs =>
    rw [factor, leavesAll, leavesAll_chain]
    rfl

mutual

theorem leaves_annotateUnder (mark : String) : ∀ t : Tree, (annotateUnder mark t).leaves = t.leaves
  | leaf w => by rw [annotateUnder]
  | node l cs => by
      rw [annotateUnder, leaves, leavesAll_factor, leavesAll_annotateAll _ cs, leaves]

theorem leavesAll_annotateAll (mark : String) :
    ∀ cs : List Tree, leavesAll ((annotateAll mark cs).map Prod.snd) = leavesAll cs
  | [] => by rw [annotateAll, List.map_nil]
  | c :: cs => by
      rw [annotateAll, List.map_cons, leavesAll, leaves_annotateUnder mark c,
        leavesAll_annotateAll mark cs, leavesAll]

end

/-- Binarizing keeps the leaves. -/
theorem leaves_annotate (t : Tree) : t.annotate.leaves = t.leaves := by
  cases t with
  | leaf w => rfl
  | node l cs => rw [annotate, leaves, leavesAll_factor, leavesAll_annotateAll, leaves]

theorem isLeaf_annotate (t : Tree) : t.annotate.isLeaf = t.isLeaf := by
  cases t <;> rfl

theorem label?_annotate (t : Tree) : t.annotate.label? = t.label? := by
  cases t with
  | leaf w => rfl
  | node l cs => rfl

end Constituency.Tree
