import Constituency.Proofs.Tree.Annotated

/-!
# Trees with productions

A binarized node has a production if it stands over one word or over nodes only. In an annotated tree every
child but the last one stands beside an intermediate node, and the last one is an only child. So all nodes of an
annotated tree have productions if and only if in the original one all nodes have children, and leaves only
behind all of their siblings (`isCountable_annotate_iff`).
-/
namespace Constituency.Tree

open Label

/-- Whether every node of a tree has children, and no leaf in front of another child. -/
def HasLeavesLast (t : Tree) : Prop :=
  ∀ u ∈ t.nodes, u.children ≠ [] ∧ ∀ c ∈ u.children.dropLast, c.isLeaf = false

@[simp] theorem hasLeavesLast_leaf (w : Word) : (leaf w).HasLeavesLast := by simp [HasLeavesLast]

theorem hasLeavesLast_node (l : String) (cs : List Tree) : (node l cs).HasLeavesLast ↔
    cs ≠ [] ∧ (∀ c ∈ cs.dropLast, c.isLeaf = false) ∧ ∀ c ∈ cs, c.HasLeavesLast := by
  simp only [HasLeavesLast, nodes_node, List.forall_mem_cons, List.forall_mem_flatMap, children, and_assoc]

theorem not_hasLeavesLast_iff {t : Tree} : ¬ t.HasLeavesLast ↔
    ∃ u ∈ t.nodes, u.children = [] ∨ ∃ c ∈ u.children.dropLast, c.isLeaf = true := by
  simp only [HasLeavesLast, not_forall, not_and_or, ne_eq, not_not, Bool.not_eq_false, exists_prop]

/-- Whether every node of a tree has a production. -/
def IsCountable (t : Tree) : Prop := ∀ u ∈ t.nodes, u.production?.isSome

@[simp] theorem isCountable_leaf (w : Word) : (leaf w).IsCountable := by simp [IsCountable]

theorem isCountable_node (l : String) (cs : List Tree) :
    (node l cs).IsCountable ↔ (node l cs).production?.isSome ∧ ∀ c ∈ cs, c.IsCountable := by
  simp only [IsCountable, nodes_node, List.forall_mem_cons, List.forall_mem_flatMap]

/-- What stands beside another node has a production over it if it is a node. -/
theorem isSome_production?_pair {l m : String} {c : Tree} {ds : List Tree} :
    (node l [c, node m ds]).production?.isSome ↔ c.isLeaf = false := by
  cases c with
  | leaf w => simp [production?, isLeaf]
  | node k cs => simp [production?, isLeaf]

theorem isLeaf_annotateUnder (mark : String) (t : Tree) : (annotateUnder mark t).isLeaf = t.isLeaf := by
  cases t <;> rfl

/-- When the nodes over annotated children have productions: the history in front of the children, and the
label that the node itself has, do not matter. -/
theorem isCountable_branches_iff {k h mark : String} {ts : List Tree} :
    (node k (branches h (annotateAll mark ts))).IsCountable ↔
      ts ≠ [] ∧ (∀ t ∈ ts.dropLast, t.isLeaf = false) ∧
        ∀ t ∈ ts, (annotateUnder mark t).IsCountable := by
  induction ts generalizing k h with
  | nil => simp [isCountable_node, annotateAll, branches, production?]
  | cons t ts ih =>
    rw [annotateAll]
    -- The last child stands alone; every other one has an intermediate node beside it.
    by_cases hmore : ts = []
    · subst hmore
      rw [annotateAll, branches, isCountable_node]
      cases t with
      | leaf w => simp [annotateUnder, production?]
      | node l cs => simp [annotateUnder, production?]
    · rw [branches_cons h _ (annotateAll_ne_nil _ hmore), isCountable_node, isSome_production?_pair,
        isLeaf_annotateUnder, List.forall_mem_cons, List.forall_mem_singleton, ih,
        List.dropLast_cons_of_ne_nil hmore, List.forall_mem_cons, List.forall_mem_cons]
      tauto

theorem isCountable_annotateUnder_iff {mark : String} {t : Tree} :
    (annotateUnder mark t).IsCountable ↔ t.HasLeavesLast := by
  induction t using Tree.induction generalizing mark with
  | leaf w => simp [annotateUnder]
  | node l cs ih =>
    rw [annotateUnder_node, isCountable_branches_iff, hasLeavesLast_node]
    exact and_congr_right' (and_congr_right' (forall₂_congr fun c hc => ih c hc))

/-- The annotated form of a tree has productions at all nodes if and only if every node of the tree has children,
and no leaf in front of another child. -/
theorem isCountable_annotate_iff {t : Tree} : t.annotate.IsCountable ↔ t.HasLeavesLast := by
  cases t with
  | leaf w => simp [annotate]
  | node l cs =>
    rw [annotate_node, isCountable_branches_iff, hasLeavesLast_node]
    exact and_congr_right' (and_congr_right' (forall₂_congr fun c _ => isCountable_annotateUnder_iff))

end Constituency.Tree
