import Constituency.Tree.Traversal
import Mathlib.Data.List.Basic

/-!
# Nodes of a tree

The agenda lists the nodes of its trees in the order of the recursive traversal (`subtreesFrom_eq`), so
what holds of all nodes of a tree can be shown along the tree (`nodes_node`, `Tree.induction`).
-/
namespace Constituency.Tree

/-- What holds of every leaf, and of a node if it holds of its children, holds of every tree. -/
@[elab_as_elim]
theorem induction {motive : Tree → Prop} (leaf : ∀ w, motive (leaf w))
    (node : ∀ l cs, (∀ c ∈ cs, motive c) → motive (node l cs)) (t : Tree) : motive t :=
  @Tree.rec motive (fun cs => ∀ c ∈ cs, motive c) leaf node (by simp)
    (fun _ _ hc hcs => List.forall_mem_cons.mpr ⟨hc, hcs⟩) t

theorem exists_of_label? {t : Tree} {l : String} (h : t.label? = some l) : ∃ cs, t = node l cs := by
  cases t with
  | leaf w => exact absurd h (by simp [label?])
  | node m cs =>
    obtain rfl := Option.some.inj h
    exact ⟨cs, rfl⟩

theorem preorderAll_eq (cs : List Tree) : preorderAll cs = cs.flatMap preorder := by
  induction cs with
  | nil => rfl
  | cons c cs ih => rw [preorderAll, ih, List.flatMap_cons]

/-- Working through an agenda lists what the recursion lists. -/
theorem subtreesFrom_eq (p : Tree → Bool) (agenda : List Tree) :
    subtreesFrom p agenda = (agenda.flatMap preorder).filter p := by
  fun_induction subtreesFrom p agenda with
  | case1 => simp
  | case2 w agenda ih => simp [preorder, ih]
  | case3 l cs agenda rest hp ih => simp [rest, preorder, preorderAll_eq, ih, hp]
  | case4 l cs agenda rest hp ih => simp [rest, preorder, preorderAll_eq, ih, hp]

theorem subtrees_eq (t : Tree) (p : Tree → Bool) : t.subtrees p = t.preorder.filter p := by
  rw [subtrees, subtreesFrom_eq]
  simp

theorem nodes_eq (t : Tree) : t.nodes = t.preorder := by
  rw [nodes, subtrees_eq, List.filter_true]

@[simp] theorem nodes_leaf (w : Word) : (leaf w).nodes = [] := by
  rw [nodes_eq, preorder]

@[simp] theorem nodes_node (l : String) (cs : List Tree) :
    (node l cs).nodes = node l cs :: cs.flatMap nodes := by
  simp only [funext nodes_eq, preorder, preorderAll_eq]

theorem mem_nodes_node {l : String} {cs : List Tree} {u : Tree} :
    u ∈ (node l cs).nodes ↔ u = node l cs ∨ ∃ c ∈ cs, u ∈ c.nodes := by
  rw [nodes_node, List.mem_cons, List.mem_flatMap]

theorem mem_nodes_of_mem_children {l : String} {cs : List Tree} {c u : Tree} (hc : c ∈ cs)
    (h : u ∈ c.nodes) : u ∈ (node l cs).nodes :=
  mem_nodes_node.mpr (Or.inr ⟨c, hc, h⟩)

theorem mem_leaves_of_mem_children {l : String} {cs : List Tree} {c : Tree} {w : Word} (hc : c ∈ cs)
    (h : w ∈ c.leaves) : w ∈ (node l cs).leaves := by
  rw [leaves_node]
  exact List.mem_flatMap.mpr ⟨c, hc, h⟩

/-- The leaves below a node are leaves of the tree. -/
theorem leaves_subset_of_mem_nodes {t u : Tree} (h : u ∈ t.nodes) : u.leaves ⊆ t.leaves := by
  induction t using Tree.induction with
  | leaf v => exact absurd h (by simp)
  | node m cs ih =>
    rcases mem_nodes_node.mp h with rfl | ⟨c, hc, hbelow⟩
    · exact List.Subset.refl _
    · exact fun w hw => mem_leaves_of_mem_children hc (ih c hc hbelow hw)

theorem mem_leaves_of_mem_nodes {t : Tree} {l : String} {w : Word} (h : node l [leaf w] ∈ t.nodes) :
    w ∈ t.leaves :=
  leaves_subset_of_mem_nodes h (by simp)

end Constituency.Tree
