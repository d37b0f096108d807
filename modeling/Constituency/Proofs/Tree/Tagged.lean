import Constituency.Proofs.Tree.Traversal
import Mathlib.Data.List.Flatten

/-!
# Tagged words

The words under preterminals are a part of the leaves, in their order (`taggedWords_sublist`). They are all leaves
if and only if no leaf stands beside a sibling (`taggedWords_eq_leaves_iff`).
-/
namespace Constituency.Tree

theorem preorder_node (l : String) (cs : List Tree) :
    (node l cs).preorder = node l cs :: cs.flatMap preorder := by
  rw [preorder, preorderAll_eq]

theorem tagged_leaf (w : Word) : (leaf w).tagged = [] := by
  rw [tagged, subtrees_eq, preorder, List.filter_nil, List.filterMap_nil]

theorem tagged_preterminal (l : String) (w : Word) : (node l [leaf w]).tagged = [(w, l)] := by
  have hnodes : (node l [leaf w]).preorder.filter isPreterminal = [node l [leaf w]] := by
    simp [preorder, preorderAll, isPreterminal]
  rw [tagged, subtrees_eq, hnodes]
  rfl

theorem tagged_node {l : String} {cs : List Tree} (h : (node l cs).isPreterminal = false) :
    (node l cs).tagged = cs.flatMap tagged := by
  rw [tagged, subtrees_eq, preorder_node, List.filter_cons, h, if_neg Bool.false_ne_true,
    List.filter_flatMap, List.filterMap_flatMap]
  exact List.flatMap_congr fun c _ => by rw [tagged, subtrees_eq]

/-- The words under preterminals, left to right. -/
def taggedWords (t : Tree) : List Word := t.tagged.map Prod.fst

theorem taggedWords_node {l : String} {cs : List Tree} (h : (node l cs).isPreterminal = false) :
    (node l cs).taggedWords = cs.flatMap taggedWords := by
  rw [taggedWords, tagged_node h, List.map_flatMap]
  rfl

theorem taggedWords_preterminal (l : String) (w : Word) : (node l [leaf w]).taggedWords = [w] := by
  rw [taggedWords, tagged_preterminal]
  rfl

/-- A node is a preterminal, or its tagged words are those of its children. -/
theorem preterminal_cases (l : String) (cs : List Tree) :
    (∃ w, cs = [leaf w]) ∨ (∀ w, cs ≠ [leaf w]) ∧ (node l cs).taggedWords = cs.flatMap taggedWords := by
  by_cases h : ∃ w, cs = [leaf w]
  · exact Or.inl h
  · refine Or.inr ⟨fun w hw => h ⟨w, hw⟩, taggedWords_node ?_⟩
    match cs, h with
    | [], _ => rfl
    | [leaf w], h => exact absurd ⟨w, rfl⟩ h
    | [node m ds], _ => rfl
    | c :: d :: cs, _ => simp [isPreterminal]

/-- The tagged words are a part of the leaves. -/
theorem taggedWords_sublist (t : Tree) : t.taggedWords.Sublist t.leaves := by
  induction t using Tree.induction with
  | leaf w => simp [taggedWords, tagged_leaf]
  | node l cs ih =>
    rcases preterminal_cases l cs with ⟨w, rfl⟩ | ⟨-, hwords⟩
    · simp [taggedWords_preterminal]
    · rw [hwords, leaves_node]
      exact List.Sublist.flatMap_right cs ih

/-- Parts of some lists are together all of them only if each part is the whole. -/
theorem flatMap_eq_iff_of_sublist {α β : Type} {f g : α → List β} {xs : List α}
    (h : ∀ x ∈ xs, (f x).Sublist (g x)) : xs.flatMap f = xs.flatMap g ↔ ∀ x ∈ xs, f x = g x := by
  refine ⟨fun heq => ?_, List.flatMap_congr⟩
  induction xs with
  | nil => simp
  | cons x xs ih =>
    obtain ⟨hx, hxs⟩ := List.forall_mem_cons.mp h
    rw [List.flatMap_cons, List.flatMap_cons] at heq
    have hlength : (f x).length = (g x).length := by
      have htotal := congrArg List.length heq
      have hrest := (List.Sublist.flatMap_right xs hxs).length_le
      have hfirst := hx.length_le
      rw [List.length_append, List.length_append] at htotal
      omega
    have hfirst := hx.eq_of_length hlength
    rw [hfirst] at heq
    exact List.forall_mem_cons.mpr ⟨hfirst, ih hxs (List.append_cancel_left heq)⟩

/-- Every leaf is the only child of its parent. -/
def LeavesAlone (t : Tree) : Prop := ∀ u ∈ t.nodes, ∀ w, leaf w ∈ u.children → u.children = [leaf w]

theorem leavesAlone_node {l : String} {cs : List Tree} :
    LeavesAlone (node l cs) ↔ (∀ w, leaf w ∈ cs → cs = [leaf w]) ∧ ∀ c ∈ cs, LeavesAlone c := by
  rw [LeavesAlone, nodes_node, List.forall_mem_cons, List.forall_mem_flatMap]
  rfl

/-- All leaves are tagged if and only if each is the only child of its parent. -/
theorem taggedWords_eq_leaves_iff {t : Tree} (ht : t.isLeaf = false) :
    t.taggedWords = t.leaves ↔ t.LeavesAlone := by
  induction t using Tree.induction with
  | leaf w => exact absurd ht (by simp [isLeaf])
  | node l cs ih =>
    rcases preterminal_cases l cs with ⟨w, rfl⟩ | ⟨hcs, hwords⟩
    · simp [taggedWords_preterminal, LeavesAlone, children]
    · rw [hwords, leaves_node, flatMap_eq_iff_of_sublist fun c _ => taggedWords_sublist c, leavesAlone_node]
      constructor
      · intro h
        have hnode : ∀ c ∈ cs, c.isLeaf = false := by
          intro c hc
          cases c with
          | leaf w => exact absurd (h _ hc) (by simp [taggedWords, tagged_leaf])
          | node m ds => rfl
        exact ⟨fun w hw => absurd (hnode _ hw) (by simp [isLeaf]),
          fun c hc => (ih c hc (hnode c hc)).mp (h c hc)⟩
      · rintro ⟨halone, hbelow⟩ c hc
        cases c with
        | leaf w => exact absurd (halone w hc) (hcs w)
        | node m ds => exact (ih _ hc rfl).mpr (hbelow _ hc)

end Constituency.Tree
