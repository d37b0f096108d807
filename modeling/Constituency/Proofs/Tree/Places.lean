import Constituency.Proofs.Tree.Leaves
import Constituency.Proofs.Tree.Traversal
import Mathlib.Data.Finset.Defs
import Mathlib.Data.List.Nodup

/-!
# Places in a tree

A place is a path of child positions from the root. What stands at a place is found step by step
(`subtree?_append`), and the nodes that stand at places are the nodes of the tree (`mem_nodes_of_subtree?`).
Every place of a node is listed once (`mem_nodePlaces`). The leaves in front of a place and those below it stand
next to each other (`exists_leaves_eq`).
-/
namespace Constituency.Tree

/-- The subtree at the end of a path of child positions. -/
def subtree? : Tree → List Nat → Option Tree
  | t, [] => some t
  | t, i :: path => t.children[i]?.bind fun c => c.subtree? path

@[simp] theorem subtree?_nil (t : Tree) : t.subtree? [] = some t := rfl

theorem subtree?_cons (t : Tree) (i : Nat) (path : List Nat) :
    t.subtree? (i :: path) = t.children[i]?.bind fun c => c.subtree? path := rfl

theorem subtree?_append (t : Tree) (path more : List Nat) :
    t.subtree? (path ++ more) = (t.subtree? path).bind fun u => u.subtree? more := by
  induction path generalizing t with
  | nil => rfl
  | cons i path ih =>
    rw [List.cons_append, subtree?_cons, subtree?_cons, Option.bind_assoc]
    exact Option.bind_congr fun c _ => ih c

/-- A place other than the root is that of a child of a node. -/
theorem subtree?_concat_eq_some_iff {t c : Tree} {path : List Nat} {i : Nat} :
    t.subtree? (path ++ [i]) = some c ↔
      ∃ l cs, t.subtree? path = some (node l cs) ∧ cs[i]? = some c := by
  rw [subtree?_append, Option.bind_eq_some_iff]
  constructor
  · rintro ⟨u, hu, hc⟩
    cases u with
    | leaf w => exact absurd hc (by simp [subtree?, children])
    | node l cs => exact ⟨l, cs, hu, by simpa [subtree?, children] using hc⟩
  · rintro ⟨l, cs, hu, hc⟩
    exact ⟨_, hu, by simp [subtree?, children, hc]⟩

/-- A node that stands at a place is a node of the tree. -/
theorem mem_nodes_of_subtree? {t : Tree} {path : List Nat} {l : String} {cs : List Tree}
    (h : t.subtree? path = some (node l cs)) : node l cs ∈ t.nodes := by
  induction path generalizing t with
  | nil =>
    obtain rfl := Option.some.inj h
    simp
  | cons i path ih =>
    rw [subtree?_cons, Option.bind_eq_some_iff] at h
    obtain ⟨c, hc, hpath⟩ := h
    cases t with
    | leaf w => exact absurd hc (by simp [children])
    | node m ds => exact mem_nodes_of_mem_children (List.mem_of_getElem? hc) (ih hpath)

/-! ### The places of all nodes -/

mutual

/-- The places of the nodes of a tree, each before those below it. -/
def places : Tree → List (List Nat)
  | leaf _ => []
  | node _ cs => [] :: placesAll 0 cs

/-- The places of the nodes of adjacent children, the first of which has a given position. -/
def placesAll (i : Nat) : List Tree → List (List Nat)
  | [] => []
  | c :: cs => (places c).map (i :: ·) ++ placesAll (i + 1) cs

end

theorem mem_placesAll {i : Nat} {cs : List Tree} {path : List Nat} :
    path ∈ placesAll i cs ↔ ∃ j more c, path = (i + j) :: more ∧ cs[j]? = some c ∧ more ∈ c.places := by
  induction cs generalizing i with
  | nil => simp [placesAll]
  | cons c cs ih =>
    rw [placesAll, List.mem_append, List.mem_map, ih]
    constructor
    · rintro (⟨more, hmore, rfl⟩ | ⟨j, more, d, rfl, hd, hmore⟩)
      · exact ⟨0, more, c, rfl, rfl, hmore⟩
      · exact ⟨j + 1, more, d, by rw [Nat.add_assoc, Nat.add_comm 1], hd, hmore⟩
    · rintro ⟨j, more, d, rfl, hd, hmore⟩
      cases j with
      | zero =>
        obtain rfl := Option.some.inj hd
        exact Or.inl ⟨more, hmore, rfl⟩
      | succ j => exact Or.inr ⟨j, more, d, by rw [Nat.add_assoc, Nat.add_comm 1], hd, hmore⟩

/-- The listed places are those at which a node stands. -/
theorem mem_places {t : Tree} {path : List Nat} :
    path ∈ t.places ↔ ∃ l cs, t.subtree? path = some (node l cs) := by
  induction t using Tree.induction generalizing path with
  | leaf w => cases path <;> simp [places, subtree?, children]
  | node m ds ih =>
    cases path with
    | nil => simp [places]
    | cons i path =>
      rw [places, List.mem_cons, or_iff_right (List.cons_ne_nil i path), mem_placesAll, subtree?_cons,
        children]
      constructor
      · rintro ⟨j, more, c, hpath, hc, hmore⟩
        obtain ⟨rfl, rfl⟩ := List.cons.inj hpath
        rw [Nat.zero_add, hc]
        exact (ih c (List.mem_of_getElem? hc)).mp hmore
      · rintro ⟨l, cs, hnode⟩
        obtain ⟨c, hc, hpath⟩ := Option.bind_eq_some_iff.mp hnode
        exact ⟨i, path, c, by rw [Nat.zero_add], hc,
          (ih c (List.mem_of_getElem? hc)).mpr ⟨l, cs, hpath⟩⟩

mutual

theorem nodup_places : ∀ t : Tree, t.places.Nodup
  | leaf _ => by rw [places]; exact List.nodup_nil
  | node _ cs => by
      rw [places, List.nodup_cons]
      refine ⟨fun h => ?_, nodup_placesAll 0 cs⟩
      obtain ⟨j, more, c, hpath, -⟩ := mem_placesAll.mp h
      exact List.cons_ne_nil _ _ hpath.symm

theorem nodup_placesAll (i : Nat) : ∀ cs : List Tree, (placesAll i cs).Nodup
  | [] => by rw [placesAll]; exact List.nodup_nil
  | c :: cs => by
      rw [placesAll, List.nodup_append]
      refine ⟨(nodup_places c).map List.cons_injective, nodup_placesAll (i + 1) cs, ?_⟩
      rintro path hfirst _ hrest rfl
      -- the first positions differ
      obtain ⟨more, -, rfl⟩ := List.mem_map.mp hfirst
      obtain ⟨j, more', d, hpath, -⟩ := mem_placesAll.mp hrest
      have := (List.cons.inj hpath).1
      omega

end

/-- The places at which a node stands. -/
def nodePlaces (t : Tree) : Finset (List Nat) := ⟨t.places, nodup_places t⟩

theorem mem_nodePlaces {t : Tree} {path : List Nat} :
    path ∈ t.nodePlaces ↔ ∃ l cs, t.subtree? path = some (node l cs) := mem_places

/-! ### The leaves in front of a place -/

/-- The leaves in front of a place. -/
def leavesBefore : Tree → List Nat → List Word
  | _, [] => []
  | t, i :: path =>
    leavesAll (t.children.take i) ++ (t.children[i]?.elim [] fun c => c.leavesBefore path)

@[simp] theorem leavesBefore_nil (t : Tree) : t.leavesBefore [] = [] := rfl

theorem leavesBefore_cons {t c : Tree} {i : Nat} (hc : t.children[i]? = some c) (path : List Nat) :
    t.leavesBefore (i :: path) = leavesAll (t.children.take i) ++ c.leavesBefore path := by
  rw [leavesBefore, hc, Option.elim_some]

/-- What stands at a place has its leaves behind those in front of the place. -/
theorem exists_leaves_eq {t u : Tree} {path : List Nat} (h : t.subtree? path = some u) :
    ∃ after, t.leaves = t.leavesBefore path ++ u.leaves ++ after := by
  induction path generalizing t with
  | nil =>
    obtain rfl := Option.some.inj h
    exact ⟨[], by simp⟩
  | cons i path ih =>
    rw [subtree?_cons, Option.bind_eq_some_iff] at h
    obtain ⟨c, hc, hpath⟩ := h
    obtain ⟨after, hafter⟩ := ih hpath
    cases t with
    | leaf w => exact absurd hc (by simp [children])
    | node l cs =>
      rw [children] at hc
      have hcs : cs = cs.take i ++ c :: cs.drop (i + 1) := by
        obtain ⟨hi, rfl⟩ := List.getElem?_eq_some_iff.mp hc
        rw [List.getElem_cons_drop, List.take_append_drop]
      refine ⟨after ++ leavesAll (cs.drop (i + 1)), ?_⟩
      rw [leavesBefore_cons hc, leaves]
      conv_lhs => rw [hcs, leavesAll_append, leavesAll, hafter]
      simp [children]

end Constituency.Tree
