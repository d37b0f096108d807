import Constituency.Proofs.Tree.Places
import Constituency.Proofs.Tree.Tagged
import Mathlib.Data.Finset.Lattice.Lemmas
import Mathlib.Data.Set.Function
import Mathlib.Logic.Function.Iterate

/-!
# Traversals through an agenda

Both traversals take one tree at a time from an agenda. The top-down one lists a node when it meets it; the
bottom-up one leaves it on the agenda below its children, notes its identity, and lists it when it meets this
identity again. If no two nodes share an identity, both end after a number of rounds that the tree determines
(`iterate_topDown`, `iterate_round`), and they have listed every node once, in the order of the recursion
(`agenda_eq_recursion`).
-/
namespace Constituency.Tree

/-! ### The marked agenda -/

theorem childrenFirstAll_eq (cs : List Tree) : childrenFirstAll cs = cs.flatMap childrenFirst := by
  induction cs with
  | nil => rfl
  | cons c cs ih => rw [childrenFirstAll, ih, List.flatMap_cons]

/-- What is still to be listed for a pending tree. -/
def Pending.nodes : Pending → List Tree
  | ⟨true, node l cs⟩ => [node l cs]
  | x => x.tree.childrenFirst

theorem flatMap_toEnter (cs : List Tree) :
    (toEnter cs).flatMap Pending.nodes = childrenFirstAll cs := by
  rw [toEnter, List.flatMap_map, childrenFirstAll_eq]
  exact List.flatMap_congr fun c _ => by simp [Pending.nodes]

/-- Working through a marked agenda lists what the recursion lists. -/
theorem postorderFrom_eq (p : Tree → Bool) (agenda : List Pending) :
    postorderFrom p agenda = (agenda.flatMap Pending.nodes).filter p := by
  fun_induction postorderFrom p agenda with
  | case1 => rfl
  | case2 entered w agenda ih => simp [Pending.nodes, childrenFirst, ih]
  | case3 l cs agenda ih => simp [Pending.nodes, childrenFirst, flatMap_toEnter, ih]
  | case4 l cs agenda hp ih => simp [Pending.nodes, hp, ih]
  | case5 l cs agenda hp ih => simp [Pending.nodes, hp, ih]

theorem postorder_eq (t : Tree) (p : Tree → Bool) : t.postorder p = t.childrenFirst.filter p := by
  rw [postorder, postorderFrom_eq]
  simp [Pending.nodes]

/-! ### Nodes with their places -/

/-- A tree with the path that leads to it. -/
abbrev Placed := List Nat × Tree

/-- The children at the end of a path with their places, from a position on. -/
def placedChildren (path : List Nat) (i : Nat) (cs : List Tree) : List Placed :=
  (cs.zipIdx i).map fun x => (path ++ [x.2], x.1)

@[simp] theorem placedChildren_nil (path : List Nat) (i : Nat) : placedChildren path i [] = [] := rfl

@[simp] theorem placedChildren_cons (path : List Nat) (i : Nat) (c : Tree) (cs : List Tree) :
    placedChildren path i (c :: cs) = (path ++ [i], c) :: placedChildren path (i + 1) cs := rfl

section Order

variable (add : Placed → List Placed → List Placed)

mutual

/-- The nodes below a path with their places, where `add` adds a node to those below it. -/
def placedNodes (path : List Nat) : Tree → List Placed
  | leaf _ => []
  | node l cs => add (path, node l cs) (placedNodesAll path 0 cs)

/-- The nodes of adjacent children with their places. -/
def placedNodesAll (path : List Nat) (i : Nat) : List Tree → List Placed
  | [] => []
  | c :: cs => placedNodes (path ++ [i]) c ++ placedNodesAll path (i + 1) cs

end

end Order

/-- The nodes with their places, each before those below it. -/
abbrev nodesDown : List Nat → Tree → List Placed := placedNodes List.cons

/-- The nodes with their places, each after those below it. -/
abbrev nodesUp : List Nat → Tree → List Placed := placedNodes fun x below => below ++ [x]

/-- The nodes of adjacent children with their places, each after those below it. -/
abbrev nodesUpAll : List Nat → Nat → List Tree → List Placed := placedNodesAll fun x below => below ++ [x]

mutual

theorem map_snd_nodesDown (path : List Nat) :
    ∀ t : Tree, (nodesDown path t).map Prod.snd = t.preorder
  | leaf _ => rfl
  | node l cs => by
      rw [nodesDown, placedNodes, List.map_cons, map_snd_nodesDownAll path 0 cs, preorder]

theorem map_snd_nodesDownAll (path : List Nat) (i : Nat) :
    ∀ cs : List Tree, (placedNodesAll List.cons path i cs).map Prod.snd = preorderAll cs
  | [] => rfl
  | c :: cs => by
      rw [placedNodesAll, List.map_append, map_snd_nodesDown _ c, map_snd_nodesDownAll path (i + 1) cs,
        preorderAll]

end

mutual

theorem map_snd_nodesUp (path : List Nat) :
    ∀ t : Tree, (nodesUp path t).map Prod.snd = t.childrenFirst
  | leaf _ => rfl
  | node l cs => by
      rw [nodesUp, placedNodes, List.map_append, map_snd_nodesUpAll path 0 cs, childrenFirst]
      rfl

theorem map_snd_nodesUpAll (path : List Nat) (i : Nat) : ∀ cs : List Tree,
    (nodesUpAll path i cs).map Prod.snd = childrenFirstAll cs
  | [] => rfl
  | c :: cs => by
      rw [nodesUpAll, placedNodesAll, List.map_append, map_snd_nodesUp _ c, map_snd_nodesUpAll path (i + 1) cs,
        childrenFirstAll]

end

/-- An order in which a node is listed with those below it. -/
def IsOrder (add : Placed → List Placed → List Placed) : Prop :=
  ∀ x below, (add x below).Perm (x :: below)

theorem isOrder_cons : IsOrder List.cons := fun _ _ => List.Perm.refl _

theorem isOrder_append : IsOrder fun x below => below ++ [x] := fun x below =>
  List.perm_append_singleton x below

section Order

variable {add : Placed → List Placed → List Placed}

mutual

/-- In whatever order, the places are those of the nodes. -/
theorem places_placedNodes (hadd : IsOrder add) (path : List Nat) : ∀ t : Tree,
    ((placedNodes add path t).map Prod.fst).Perm (t.places.map (path ++ ·))
  | leaf _ => by rw [placedNodes, places, List.map_nil, List.map_nil]
  | node l cs => by
      rw [placedNodes, places, List.map_cons, List.append_nil]
      exact ((hadd _ _).map Prod.fst).trans ((places_placedNodesAll hadd path 0 cs).cons path)

theorem places_placedNodesAll (hadd : IsOrder add) (path : List Nat) (i : Nat) : ∀ cs : List Tree,
    ((placedNodesAll add path i cs).map Prod.fst).Perm ((placesAll i cs).map (path ++ ·))
  | [] => by rw [placedNodesAll, placesAll, List.map_nil, List.map_nil]
  | c :: cs => by
      have hc : (c.places.map (i :: ·)).map (path ++ ·) = c.places.map (path ++ [i] ++ ·) := by
        simp
      rw [placedNodesAll, placesAll, List.map_append, List.map_append, hc]
      exact (places_placedNodes hadd (path ++ [i]) c).append (places_placedNodesAll hadd path (i + 1) cs)

end

mutual

/-- A listed node is found at its place. -/
theorem subtree?_of_mem_placedNodes (hadd : IsOrder add) {path : List Nat} {x : Placed} : ∀ {t : Tree},
    x ∈ placedNodes add path t →
      ∃ more, x.1 = path ++ more ∧ t.subtree? more = some x.2 ∧ x.2.isLeaf = false
  | leaf _, h => by simp [placedNodes] at h
  | node l cs, h => by
      rw [placedNodes, (hadd _ _).mem_iff, List.mem_cons] at h
      rcases h with rfl | h
      · exact ⟨[], by simp, by simp, rfl⟩
      · obtain ⟨j, c, more, hplace, hc, hmore, hleaf⟩ := subtree?_of_mem_placedNodesAll hadd h
        refine ⟨j :: more, by simpa using hplace, ?_, hleaf⟩
        rw [subtree?_cons, children, hc]
        exact hmore

theorem subtree?_of_mem_placedNodesAll (hadd : IsOrder add) {path : List Nat} {i : Nat} {x : Placed} :
    ∀ {cs : List Tree}, x ∈ placedNodesAll add path i cs →
      ∃ j c more, x.1 = path ++ (i + j) :: more ∧ cs[j]? = some c ∧
        c.subtree? more = some x.2 ∧ x.2.isLeaf = false
  | [], h => by simp [placedNodesAll] at h
  | c :: cs, h => by
      rw [placedNodesAll, List.mem_append] at h
      rcases h with h | h
      · obtain ⟨more, hplace, hmore, hleaf⟩ := subtree?_of_mem_placedNodes hadd h
        exact ⟨0, c, more, by simpa using hplace, rfl, hmore, hleaf⟩
      · obtain ⟨j, d, more, hplace, hd, hmore, hleaf⟩ := subtree?_of_mem_placedNodesAll hadd h
        exact ⟨j + 1, d, more, by rw [hplace, Nat.add_assoc, Nat.add_comm 1], hd, hmore, hleaf⟩

end

/-- A list with every node of a tree that satisfies a condition, at each of its places once. -/
structure ListsOnce (t : Tree) (p : Tree → Bool) (listed : List Placed) : Prop where
  nodup : (listed.map Prod.fst).Nodup
  mem_iff : ∀ path u,
    (path, u) ∈ listed ↔ t.subtree? path = some u ∧ u.isLeaf = false ∧ p u = true

theorem mem_placedNodes_iff (hadd : IsOrder add) {t u : Tree} {path : List Nat} :
    (path, u) ∈ placedNodes add [] t ↔ t.subtree? path = some u ∧ u.isLeaf = false := by
  constructor
  · intro h
    obtain ⟨more, hplace, hmore⟩ := subtree?_of_mem_placedNodes hadd h
    obtain rfl : path = more := hplace
    exact hmore
  · rintro ⟨hu, hleaf⟩
    have hplace : path ∈ (placedNodes add [] t).map Prod.fst := by
      rw [(places_placedNodes hadd [] t).mem_iff, List.map_congr_left fun q _ => List.nil_append q,
        List.map_id', mem_places]
      cases u with
      | leaf w => exact absurd hleaf (by simp [isLeaf])
      | node l cs => exact ⟨l, cs, hu⟩
    obtain ⟨x, hx, rfl⟩ := List.mem_map.mp hplace
    -- nothing else stands at this place
    obtain ⟨more, hpath, hmore, -⟩ := subtree?_of_mem_placedNodes hadd hx
    rw [List.nil_append] at hpath
    rw [hpath, hmore, Option.some.injEq] at hu
    exact hu ▸ hx

theorem listsOnce_placedNodes (hadd : IsOrder add) (t : Tree) (p : Tree → Bool) :
    ListsOnce t p ((placedNodes add [] t).filter fun x => p x.2) where
  nodup := by
    have hplaces : ((placedNodes add [] t).map Prod.fst).Nodup :=
      (places_placedNodes hadd [] t).nodup_iff.mpr
        ((nodup_places t).map (List.append_right_injective []))
    exact hplaces.sublist (List.filter_sublist.map Prod.fst)
  mem_iff path u := by
    rw [List.mem_filter, mem_placedNodes_iff hadd, and_assoc]

end Order

/-! ### The top-down loop -/

/-- A round of the top-down traversal: what is pending, the next one in front, and what has been listed. -/
def topDown (p : Tree → Bool) : List Placed × List Placed → List Placed × List Placed
  | ([], listed) => ([], listed)
  | ((_, leaf _) :: agenda, listed) => (agenda, listed)
  | ((path, node l cs) :: agenda, listed) =>
      (placedChildren path 0 cs ++ agenda,
        if p (node l cs) then listed ++ [(path, node l cs)] else listed)

mutual

/-- A tree in front of the agenda is gone after one round for each of its leaves and nodes. -/
theorem iterate_topDown (p : Tree → Bool) (path : List Nat) (agenda listed : List Placed) : ∀ t : Tree,
    (topDown p)^[t.size] ((path, t) :: agenda, listed) =
      (agenda, listed ++ (nodesDown path t).filter fun x => p x.2)
  | leaf w => by
      rw [size, Function.iterate_one, topDown, nodesDown, placedNodes, List.filter_nil, List.append_nil]
  | node l cs => by
      rw [size, Nat.add_comm, Function.iterate_succ_apply, topDown, iterate_topDownAll, nodesDown,
        placedNodes, List.filter_cons]
      split <;> simp

theorem iterate_topDownAll (p : Tree → Bool) (path : List Nat) (i : Nat) (agenda listed : List Placed) :
    ∀ cs : List Tree, (topDown p)^[sizeAll cs] (placedChildren path i cs ++ agenda, listed) =
      (agenda, listed ++ (placedNodesAll List.cons path i cs).filter fun x => p x.2)
  | [] => by simp [sizeAll, placedNodesAll]
  | c :: cs => by
      rw [sizeAll, Nat.add_comm, Function.iterate_add_apply, placedChildren_cons, List.cons_append,
        iterate_topDown, iterate_topDownAll, placedNodesAll, List.filter_append, List.append_assoc]

end

/-! ### The bottom-up loop -/

/-- The bottom-up traversal under way: what is pending, the next one in front, the identities of the nodes that
have been entered, and what has been listed. -/
structure BottomUp (ι : Type) where
  agenda : List Placed
  visited : Finset ι
  listed : List Placed

section BottomUp

variable {ι : Type} [DecidableEq ι] (ident : List Nat → ι) (p : Tree → Bool)

/-- A round of the bottom-up traversal, where `ident` gives the identity of the node at a place. -/
def BottomUp.round : BottomUp ι → BottomUp ι
  | ⟨[], visited, listed⟩ => ⟨[], visited, listed⟩
  | ⟨(_, leaf _) :: agenda, visited, listed⟩ => ⟨agenda, visited, listed⟩
  | ⟨(path, node l cs) :: agenda, visited, listed⟩ =>
      if ident path ∈ visited then
        ⟨agenda, visited, if p (node l cs) then listed ++ [(path, node l cs)] else listed⟩
      else
        ⟨placedChildren path 0 cs ++ (path, node l cs) :: agenda, visited ∪ {ident path}, listed⟩

/-- The identities of some nodes. -/
def idents (xs : List Placed) : List ι := xs.map fun x => ident x.1

omit [DecidableEq ι] in
theorem idents_append (xs ys : List Placed) : idents ident (xs ++ ys) = idents ident xs ++ idents ident ys :=
  List.map_append

/-- One round for each leaf and two for each node. -/
def rounds (t : Tree) : Nat := t.leaves.length + 2 * t.nodes.length

/-- The rounds of some trees together. -/
def roundsAll (cs : List Tree) : Nat := (cs.flatMap leaves).length + 2 * (cs.flatMap nodes).length

theorem rounds_node (l : String) (cs : List Tree) : (node l cs).rounds = 1 + (roundsAll cs + 1) := by
  rw [rounds, leaves_node, nodes_node, List.length_cons, roundsAll]
  omega

theorem roundsAll_cons (c : Tree) (cs : List Tree) : roundsAll (c :: cs) = roundsAll cs + c.rounds := by
  simp only [roundsAll, rounds, List.flatMap_cons, List.length_append]
  omega

mutual

/-- A tree in front of the agenda, none of whose nodes has been met, is gone after its rounds. All its nodes have
been entered then, and those that satisfy the condition are listed. -/
theorem iterate_round (path : List Nat) (agenda : List Placed) (visited : Finset ι) (listed : List Placed) :
    ∀ t : Tree, (idents ident (nodesUp path t)).Nodup →
      (∀ x ∈ idents ident (nodesUp path t), x ∉ visited) →
      (BottomUp.round ident p)^[t.rounds] ⟨(path, t) :: agenda, visited, listed⟩ =
        ⟨agenda, visited ∪ (idents ident (nodesUp path t)).toFinset,
          listed ++ (nodesUp path t).filter fun x => p x.2⟩
  | leaf w, _, _ => by
      have hrounds : (leaf w).rounds = 1 := by simp [rounds]
      simp [hrounds, BottomUp.round, placedNodes, idents]
  | node l cs, hnodup, hnew => by
      have hnodes : nodesUp path (node l cs) = nodesUpAll path 0 cs ++ [(path, node l cs)] := rfl
      have hidents : idents ident [(path, node l cs)] = [ident path] := rfl
      rw [hnodes, idents_append, hidents] at hnodup hnew
      obtain ⟨hbelow, -, hother⟩ := List.nodup_append.mp hnodup
      have hentered : ident path ∉ visited := hnew _ (List.mem_append_right _ (List.mem_singleton_self _))
      have hnewBelow : ∀ x ∈ idents ident (nodesUpAll path 0 cs), x ∉ visited ∪ {ident path} := by
        intro x hx hmem
        rcases Finset.mem_union.mp hmem with hmem | hmem
        · exact hnew x (List.mem_append_left _ hx) hmem
        · exact hother x hx _ (List.mem_singleton_self _) (Finset.mem_singleton.mp hmem)
      have hvisited : visited ∪ {ident path} ∪ (idents ident (nodesUpAll path 0 cs)).toFinset =
          visited ∪ (idents ident (nodesUpAll path 0 cs) ++ [ident path]).toFinset := by
        ext x
        simp
      -- the node is entered, its children are worked off, and it is met again
      rw [rounds_node, Function.iterate_add_apply, Function.iterate_add_apply, Function.iterate_one,
        BottomUp.round, if_neg hentered, iterate_roundAll path 0 _ _ _ cs hbelow hnewBelow, BottomUp.round,
        if_pos (by simp), hvisited, hnodes, idents_append, hidents, List.filter_append]
      split <;> simp [*]

theorem iterate_roundAll (path : List Nat) (i : Nat) (agenda : List Placed) (visited : Finset ι)
    (listed : List Placed) : ∀ cs : List Tree, (idents ident (nodesUpAll path i cs)).Nodup →
      (∀ x ∈ idents ident (nodesUpAll path i cs), x ∉ visited) →
      (BottomUp.round ident p)^[roundsAll cs] ⟨placedChildren path i cs ++ agenda, visited, listed⟩ =
        ⟨agenda, visited ∪ (idents ident (nodesUpAll path i cs)).toFinset,
          listed ++ (nodesUpAll path i cs).filter fun x => p x.2⟩
  | [], _, _ => by simp [roundsAll, placedNodesAll, idents]
  | c :: cs, hnodup, hnew => by
      have hnodes : nodesUpAll path i (c :: cs) =
        nodesUp (path ++ [i]) c ++ nodesUpAll path (i + 1) cs := rfl
      rw [hnodes, idents_append] at hnodup hnew
      obtain ⟨hfirst, hrest, hother⟩ := List.nodup_append.mp hnodup
      have hnewFirst : ∀ x ∈ idents ident (nodesUp (path ++ [i]) c), x ∉ visited := fun x hx =>
        hnew x (List.mem_append_left _ hx)
      have hnewRest : ∀ x ∈ idents ident (nodesUpAll path (i + 1) cs),
          x ∉ visited ∪ (idents ident (nodesUp (path ++ [i]) c)).toFinset := by
        intro x hx hmem
        rcases Finset.mem_union.mp hmem with hmem | hmem
        · exact hnew x (List.mem_append_right _ hx) hmem
        · exact hother x (List.mem_toFinset.mp hmem) x hx rfl
      rw [roundsAll_cons, Function.iterate_add_apply, placedChildren_cons, List.cons_append,
        iterate_round _ _ _ _ c hfirst hnewFirst, iterate_roundAll path (i + 1) _ _ _ cs hrest hnewRest,
        hnodes, idents_append, List.filter_append, List.toFinset_append, Finset.union_assoc,
        List.append_assoc]

end

/-- The nodes at different places of a tree are different ones. -/
def Unshared (t : Tree) : Prop := Set.InjOn ident {path | path ∈ t.places}

omit [DecidableEq ι] in
theorem nodup_idents {ident : List Nat → ι} {t : Tree} (h : Unshared ident t) :
    (idents ident (nodesUp [] t)).Nodup := by
  have hplaces : ((nodesUp [] t).map Prod.fst).Perm t.places := by
    simpa using places_placedNodes isOrder_append [] t
  have hidents : idents ident (nodesUp [] t) = ((nodesUp [] t).map Prod.fst).map ident := by
    rw [List.map_map]
    rfl
  rw [hidents, (hplaces.map ident).nodup_iff]
  exact (nodup_places t).map_on fun _ hx _ hy heq => h hx hy heq

end BottomUp

/-! ### Both traversals -/

theorem map_snd_filter (p : Tree → Bool) (xs : List Placed) :
    (xs.filter fun x => p x.2).map Prod.snd = (xs.map Prod.snd).filter p := by
  rw [List.filter_map]
  rfl

/-- In a tree without shared nodes both loops come to an end, with every node that satisfies the condition listed
once and in the order of the recursion. The tagged words are a part of the leaves, and all of them if and only if
every leaf is the only child of its parent. -/
theorem agenda_eq_recursion {ι : Type} [DecidableEq ι] {ident : List Nat → ι} {t : Tree}
    (hident : Unshared ident t) (ht : t.isLeaf = false) (p : Tree → Bool) :
    (t.subtrees p = t.preorder.filter p ∧
      ∃ listed, (topDown p)^[t.size] ([([], t)], []) = ([], listed) ∧
        listed.map Prod.snd = t.subtrees p ∧ ListsOnce t p listed) ∧
    (t.postorder p = t.childrenFirst.filter p ∧
      ∃ visited listed,
        (BottomUp.round ident p)^[t.rounds] ⟨[([], t)], ∅, []⟩ = ⟨[], visited, listed⟩ ∧
        listed.map Prod.snd = t.postorder p ∧ ListsOnce t p listed) ∧
    t.taggedWords.Sublist t.leaves ∧ (t.taggedWords = t.leaves ↔ t.LeavesAlone) := by
  refine ⟨⟨subtrees_eq t p, _, iterate_topDown p [] [] [] t, ?_, listsOnce_placedNodes isOrder_cons t p⟩,
    ⟨postorder_eq t p, _, _,
      iterate_round ident p [] [] ∅ [] t (nodup_idents hident) fun x _ => Finset.notMem_empty x, ?_,
      listsOnce_placedNodes isOrder_append t p⟩,
    taggedWords_sublist t, taggedWords_eq_leaves_iff ht⟩
  · rw [List.nil_append, map_snd_filter, map_snd_nodesDown, subtrees_eq]
  · rw [List.nil_append, map_snd_filter, map_snd_nodesUp, postorder_eq]

/-- A word beside two phrases, one of them without words. -/
def mixedTree : Tree := node "S" [node "A" [ofWord "a"], ofWord "b", node "E" []]

theorem agenda_mixedTree : Unshared id mixedTree ∧
    (∃ visited listed,
      (BottomUp.round id fun _ => true)^[8] ⟨[([], mixedTree)], ∅, []⟩ = ⟨[], visited, listed⟩ ∧
      listed.map Prod.snd = [node "A" [ofWord "a"], node "E" [], mixedTree]) ∧
    mixedTree.taggedWords ≠ mixedTree.leaves := by
  have hident : Unshared id mixedTree := Set.injOn_id _
  obtain ⟨-, ⟨hpost, visited, listed, hrun, hlisted, -⟩, -, hall⟩ :=
    agenda_eq_recursion hident rfl fun _ => true
  refine ⟨hident, ⟨visited, listed, ?_, ?_⟩, ?_⟩
  · rwa [show mixedTree.rounds = 8 by simp [mixedTree, rounds]] at hrun
  · rw [hlisted, hpost, List.filter_true]
    simp [mixedTree, childrenFirst, childrenFirstAll]
  · intro heq
    have halone := hall.mp heq mixedTree (by simp [mixedTree]) (some "b")
    simp [mixedTree, children] at halone

end Constituency.Tree
