import Constituency.Proofs.Label.Histories
import Constituency.Proofs.Tree.Annotated
import Constituency.Proofs.Tree.Places

/-!
# Places and labels of annotated trees

In an annotated tree the child at a position stands behind as many intermediate nodes, as the first child of
the last of them (`annotatedPath`), and the intermediate nodes stand on the way (`innerPath`); nothing stands
anywhere else (`exists_place_annotatedBelow`). A node has its own label with the mark of its parent there, and an
intermediate node the history of the siblings in front. If the parts of a history can be told apart, it lists
the last two of them, and no two histories are confused (`annotate_markovizes`).
-/
namespace Constituency

open Label

namespace Label

/-- The label of a node in an annotated tree: the label of the root as it is, any other one with the base
label of the parent without any `@`. -/
def annotatedLabel (parent : Option String) (l : String) : String :=
  match parent with
  | none => l
  | some m => withParent l (parentMark m)

theorem not_mem_base {c : Char} {l : String} (h : c ∉ l.toList) : c ∉ (base l).toList := by
  rw [base, toList_onChars]
  exact fun hc => h ((List.takeWhile_sublist _).subset hc)

theorem not_mem_annotatedLabel {parent : Option String} {l : String} (hl : '_' ∉ l.toList)
    (hparent : ∀ m ∈ parent, '_' ∉ m.toList) : '_' ∉ (annotatedLabel parent l).toList := by
  cases parent with
  | none => exact hl
  | some m =>
    have hmark : '_' ∉ (parentMark m).toList := by
      rw [parentMark, toList_onChars]
      exact fun hc => hparent m rfl ((List.takeWhile_sublist _).subset (List.filter_sublist.subset hc))
    rw [annotatedLabel, toList_withParent]
    simp [hl, hmark]

end Label

namespace Tree

/-! ### Places -/

/-- The label of the node at a place. -/
def labelAt? (t : Tree) (path : List Nat) : Option String := (t.subtree? path).bind label?

/-- The label of the parent of the node at a place; the root has none. -/
def parentLabel? (t : Tree) (path : List Nat) : Option String :=
  if path = [] then none else t.labelAt? path.dropLast

/-- Where the node at a place is found in the annotated tree. -/
def annotatedPath (path : List Nat) : List Nat := path.flatMap fun i => List.replicate i 1 ++ [0]

/-- Where the intermediate node is found that stands over the children from a position on of the node at a
place. -/
def innerPath (path : List Nat) (i : Nat) : List Nat := annotatedPath path ++ List.replicate i 1

theorem annotatedPath_concat (path : List Nat) (i : Nat) :
    annotatedPath (path ++ [i]) = innerPath path i ++ [0] := by
  simp [annotatedPath, innerPath]

/-- The history after the first children of a chain. -/
def historyAfter (h : String) (cs : List (String × Tree)) (i : Nat) : String :=
  ((cs.take i).map Prod.fst).foldl extendHistory h

/-- Behind as many intermediate nodes as there are children in front stands a child with those behind it. -/
theorem subtree?_branches (k h : String) (cs : List (String × Tree)) {i : Nat} (hi : 0 < i) :
    (node k (branches h cs)).subtree? (List.replicate i 1) =
      if i < cs.length then some (node (historyAfter h cs i) (branches (historyAfter h cs i) (cs.drop i)))
      else none := by
  induction cs generalizing k h i with
  | nil =>
    obtain ⟨j, rfl⟩ := Nat.exists_eq_succ_of_ne_zero hi.ne'
    simp [branches, List.replicate_succ, subtree?_cons, children]
  | cons c cs ih =>
    obtain ⟨j, rfl⟩ := Nat.exists_eq_succ_of_ne_zero hi.ne'
    rw [List.replicate_succ, subtree?_cons, children]
    by_cases hmore : cs = []
    · subst hmore
      simp [branches]
    rw [branches_cons h c hmore]
    change (node _ (branches (extendHistory h c.1) cs)).subtree? (List.replicate j 1) = _
    cases j with
    | zero => simp [List.length_pos_iff.mpr hmore, historyAfter]
    | succ j =>
      rw [ih _ _ (Nat.succ_pos j)]
      simp [historyAfter]

theorem subtree?_branches_child (k h : String) (cs : List (String × Tree)) (i : Nat) :
    (node k (branches h cs)).subtree? (List.replicate i 1 ++ [0]) = cs[i]?.map Prod.snd := by
  have hfirst (k h : String) (cs : List (String × Tree)) :
      (node k (branches h cs)).subtree? [0] = cs.head?.map Prod.snd := by
    rw [subtree?_cons, children, ← List.head?_eq_getElem?, head?_branches]
    cases cs.head? <;> rfl
  cases i with
  | zero => rw [List.replicate_zero, List.nil_append, hfirst, List.head?_eq_getElem?]
  | succ i =>
    rw [subtree?_append, subtree?_branches k h cs (Nat.succ_pos i)]
    split_ifs with hi
    · rw [Option.bind_some, hfirst, List.head?_drop]
    · rw [Option.bind_none, List.getElem?_eq_none (Nat.le_of_not_lt hi), Option.map_none]

/-- Below a node stand its intermediate nodes and its children, and nothing else. -/
theorem exists_place_branches {k h : String} {cs : List (String × Tree)} {path : List Nat}
    (hpath : ((node k (branches h cs)).subtree? path).isSome) :
    (∃ i, (i = 0 ∨ i < cs.length) ∧ path = List.replicate i 1) ∨
      ∃ i c more, cs[i]? = some c ∧ path = List.replicate i 1 ++ 0 :: more ∧ (c.2.subtree? more).isSome := by
  induction cs generalizing k h path with
  | nil =>
    cases path with
    | nil => exact Or.inl ⟨0, Or.inl rfl, rfl⟩
    | cons j path => exact absurd hpath (by simp [branches, subtree?_cons, children])
  | cons c cs ih =>
    cases path with
    | nil => exact Or.inl ⟨0, Or.inl rfl, rfl⟩
    | cons j path =>
      rw [subtree?_cons, children] at hpath
      cases j with
      | zero =>
        rw [← List.head?_eq_getElem?, head?_branches] at hpath
        exact Or.inr ⟨0, c, path, rfl, rfl, hpath⟩
      | succ j =>
        -- Only an intermediate node stands beside the first child.
        by_cases hmore : cs = []
        · subst hmore
          exact absurd hpath (by simp [branches])
        rw [branches_cons h c hmore] at hpath
        cases j with
        | succ j => exact absurd hpath (by simp)
        | zero =>
          rcases ih hpath with ⟨i, hi, rfl⟩ | ⟨i, d, more, hd, rfl, hbelow⟩
          · refine Or.inl ⟨i + 1, Or.inr ?_, rfl⟩
            have hpos := List.length_pos_iff.mpr hmore
            rw [List.length_cons]
            omega
          · exact Or.inr ⟨i + 1, d, more, hd, rfl, hbelow⟩

/-! ### Annotated nodes -/

/-- The annotated form of a tree below a node of a label, or of a whole tree. -/
def annotatedBelow (parent : Option String) (t : Tree) : Tree :=
  match parent with
  | none => t.annotate
  | some m => annotateUnder (parentMark m) t

theorem annotatedBelow_leaf (parent : Option String) (w : Word) :
    annotatedBelow parent (leaf w) = leaf w := by
  cases parent with
  | none => rfl
  | some m => rw [annotatedBelow, annotateUnder]

theorem annotatedBelow_node (parent : Option String) (l : String) (cs : List Tree) :
    annotatedBelow parent (node l cs) = node (annotatedLabel parent l)
      (branches (emptyHistory (annotatedLabel parent l)) (annotateAll (parentMark l) cs)) := by
  cases parent with
  | none => exact annotate_node l cs
  | some m => rw [annotatedBelow, annotateUnder_node, parentMark_withParent, annotatedLabel]

theorem getElem?_annotateAll (mark : String) (cs : List Tree) (i : Nat) :
    (annotateAll mark cs)[i]? = cs[i]?.map fun c => (siblingLabel mark c, annotateUnder mark c) := by
  rw [annotateAll_eq, List.getElem?_map]

/-- What stands at a place is found at the place for it, in its annotated form. -/
theorem subtree?_annotatedPath {t u : Tree} {path : List Nat} (h : t.subtree? path = some u) :
    t.annotate.subtree? (annotatedPath path) = some (annotatedBelow (t.parentLabel? path) u) := by
  induction path using List.reverseRecOn generalizing u with
  | nil =>
    obtain rfl := Option.some.inj h
    rfl
  | append_singleton path i ih =>
    obtain ⟨l, cs, hnode, hchild⟩ := subtree?_concat_eq_some_iff.mp h
    have hparent : t.parentLabel? (path ++ [i]) = some l := by
      rw [parentLabel?, if_neg (by simp), List.dropLast_concat, labelAt?, hnode]
      rfl
    rw [annotatedPath_concat, innerPath, List.append_assoc, subtree?_append, ih hnode, annotatedBelow_node,
      Option.bind_some, subtree?_branches_child, getElem?_annotateAll, hchild, hparent]
    rfl

/-- The intermediate node over the children from a position on. -/
theorem subtree?_innerPath {t : Tree} {path : List Nat} {l : String} {cs : List Tree}
    (h : t.subtree? path = some (node l cs)) {i : Nat} (hi : 1 ≤ i) (hlt : i < cs.length) :
    let history := ((cs.take i).map (siblingLabel (parentMark l))).foldl extendHistory
      (emptyHistory (annotatedLabel (t.parentLabel? path) l))
    t.annotate.subtree? (innerPath path i) =
      some (node history (branches history (annotateAll (parentMark l) (cs.drop i)))) := by
  intro history
  have hlt' : i < (annotateAll (parentMark l) cs).length := by rwa [annotateAll_eq, List.length_map]
  have hhistory : historyAfter (emptyHistory (annotatedLabel (t.parentLabel? path) l))
      (annotateAll (parentMark l) cs) i = history := by
    rw [historyAfter, annotateAll_eq, ← List.map_take, List.map_map]
    rfl
  rw [innerPath, subtree?_append, subtree?_annotatedPath h, annotatedBelow_node, Option.bind_some,
    subtree?_branches _ _ _ hi, if_pos hlt', hhistory, annotateAll_eq, annotateAll_eq, List.map_drop]

/-- Nothing stands anywhere else in an annotated tree. -/
theorem exists_place_annotatedBelow (parent : Option String) {t : Tree} {path : List Nat}
    (h : ((annotatedBelow parent t).subtree? path).isSome) :
    (∃ place, (t.subtree? place).isSome ∧ path = annotatedPath place) ∨
      ∃ place l cs i, t.subtree? place = some (node l cs) ∧ 1 ≤ i ∧ i < cs.length ∧
        path = innerPath place i := by
  induction t using Tree.induction generalizing parent path with
  | leaf w =>
    rw [annotatedBelow_leaf] at h
    cases path with
    | nil => exact Or.inl ⟨[], rfl, rfl⟩
    | cons i path => exact absurd h (by simp [subtree?_cons, children])
  | node l cs ih =>
    rw [annotatedBelow_node] at h
    rcases exists_place_branches h with ⟨i, hi, rfl⟩ | ⟨i, c, more, hc, rfl, hmore⟩
    · rcases Nat.eq_zero_or_pos i with rfl | hpos
      · exact Or.inl ⟨[], rfl, rfl⟩
      · rw [annotateAll_eq, List.length_map] at hi
        exact Or.inr ⟨[], l, cs, i, rfl, hpos, hi.resolve_left hpos.ne', rfl⟩
    · rw [getElem?_annotateAll, Option.map_eq_some_iff] at hc
      obtain ⟨t, ht, rfl⟩ := hc
      have hstep : ∀ place, (node l cs).subtree? (i :: place) = t.subtree? place := by
        intro place
        rw [subtree?_cons, children, ht, Option.bind_some]
      have hpath : ∀ place, annotatedPath (i :: place) = List.replicate i 1 ++ 0 :: annotatedPath place := by
        intro place
        simp [annotatedPath]
      rcases ih t (List.mem_of_getElem? ht) (some l) hmore with
        ⟨place, hplace, rfl⟩ | ⟨place, m, ds, j, hplace, hj, hlt, rfl⟩
      · exact Or.inl ⟨i :: place, by rwa [hstep], (hpath place).symm⟩
      · refine Or.inr ⟨i :: place, m, ds, j, by rw [hstep, hplace], hj, hlt, ?_⟩
        rw [innerPath, innerPath, hpath, List.append_assoc, List.cons_append]

/-- No two of the places are one: behind the intermediate nodes of a node, a `0` leads to a child. -/
theorem innerPath_inj {path path' : List Nat} {i i' : Nat} :
    innerPath path i = innerPath path' i' ↔ path = path' ∧ i = i' := by
  have hcons : ∀ (j : Nat) (p : List Nat) (k : Nat),
      innerPath (j :: p) k = List.replicate j 1 ++ 0 :: innerPath p k := by
    intro j p k
    simp [innerPath, annotatedPath]
  have hnil : ∀ k, innerPath [] k = List.replicate k 1 := fun _ => rfl
  constructor
  · intro hsame
    induction path generalizing path' with
    | nil =>
      cases path' with
      | nil => exact ⟨rfl, by simpa [hnil] using hsame⟩
      | cons j p =>
        have hmem : 0 ∈ innerPath (j :: p) i' := by simp [hcons]
        rw [← hsame, hnil] at hmem
        exact absurd (List.eq_of_mem_replicate hmem) (by decide)
    | cons j p ih =>
      cases path' with
      | nil =>
        have hmem : 0 ∈ innerPath (j :: p) i := by simp [hcons]
        rw [hsame, hnil] at hmem
        exact absurd (List.eq_of_mem_replicate hmem) (by decide)
      | cons j' p' =>
        rw [hcons, hcons] at hsame
        have hones := congrArg (List.takeWhile (· == 1)) hsame
        rw [List.takeWhile_append_of_pos (by simp), List.takeWhile_append_of_pos (by simp)] at hones
        obtain rfl : j = j' := by simpa using congrArg List.length hones
        obtain ⟨rfl, rfl⟩ := ih (List.cons.inj (List.append_cancel_left hsame)).2
        exact ⟨rfl, rfl⟩
  · rintro ⟨rfl, rfl⟩
    rfl

/-! ### At most two children -/

/-- Whether no node of a tree has more than two children. -/
def IsNarrow (t : Tree) : Prop := ∀ u ∈ t.nodes, u.children.length ≤ 2

theorem isNarrow_node (l : String) (cs : List Tree) :
    (node l cs).IsNarrow ↔ cs.length ≤ 2 ∧ ∀ c ∈ cs, c.IsNarrow := by
  simp only [IsNarrow, nodes_node, List.forall_mem_cons, List.forall_mem_flatMap, children]

theorem isNarrow_branches {k h mark : String} {ts : List Tree}
    (hts : ∀ t ∈ ts, (annotateUnder mark t).IsNarrow) :
    (node k (branches h (annotateAll mark ts))).IsNarrow := by
  induction ts generalizing k h with
  | nil => simp [annotateAll, branches, isNarrow_node]
  | cons t ts ih =>
    rw [List.forall_mem_cons] at hts
    rw [annotateAll]
    by_cases hmore : ts = []
    · subst hmore
      rw [annotateAll, branches, isNarrow_node, List.forall_mem_singleton]
      exact ⟨by simp, hts.1⟩
    · rw [branches_cons h _ (annotateAll_ne_nil _ hmore), isNarrow_node, List.forall_mem_cons,
        List.forall_mem_singleton]
      exact ⟨by simp, hts.1, ih hts.2⟩

theorem isNarrow_annotatedBelow (parent : Option String) (t : Tree) : (annotatedBelow parent t).IsNarrow := by
  induction t using Tree.induction generalizing parent with
  | leaf w => simp [annotatedBelow_leaf, IsNarrow]
  | node l cs ih =>
    rw [annotatedBelow_node]
    exact isNarrow_branches fun c hc => ih c hc (some l)

/-! ### What histories list -/

/-- The label of a node, or the word of a leaf, in front of the first `^`. -/
def baseLabel : Tree → String
  | leaf w => base (w.getD "")
  | node l _ => base l

theorem base_siblingLabel (mark : String) (t : Tree) : base (siblingLabel mark t) = t.baseLabel := by
  cases t with
  | leaf w => rfl
  | node l cs => exact base_withParent l mark

/-- The base labels of the last two children in front of a position, or of the only one. -/
def recentSiblings (cs : List Tree) (i : Nat) : List String := ((cs.take i).map baseLabel).rtake 2

/-- Whether the parts of all histories in a tree can be told apart: none has a `_`, and no sibling that
another one follows has an empty base label. -/
structure HasPlainSiblings (t : Tree) : Prop where
  label : ∀ l cs, node l cs ∈ t.nodes → '_' ∉ l.toList
  word : ∀ l cs, node l cs ∈ t.nodes → ∀ w, ofWord w ∈ cs.dropLast → '_' ∉ w.toList
  base : ∀ l cs, node l cs ∈ t.nodes → ∀ c ∈ cs.dropLast, c.baseLabel ≠ ""

/-- Whether an intermediate node stands for the children from a position on of the node at a place. -/
structure HasInner (t : Tree) (path : List Nat) (i : Nat) (l : String) (cs : List Tree) : Prop where
  place : t.subtree? path = some (node l cs)
  pos : 1 ≤ i
  lt : i < cs.length

variable {t : Tree} {path : List Nat} {i : Nat} {l : String} {cs : List Tree}

theorem mem_dropLast_of_mem_take {α : Type} {xs : List α} {x : α} {n : Nat} (hn : n < xs.length)
    (h : x ∈ xs.take n) : x ∈ xs.dropLast := by
  rw [List.dropLast_eq_take]
  have hle : n ≤ xs.length - 1 := by omega
  exact (List.take_prefix_take_left hle).subset h

namespace HasPlainSiblings

theorem not_mem_parentLabel (h : t.HasPlainSiblings) : ∀ m ∈ t.parentLabel? path, '_' ∉ m.toList := by
  intro m hm
  rw [Option.mem_def, parentLabel?] at hm
  split_ifs at hm
  obtain ⟨u, hu, hlabel⟩ := Option.bind_eq_some_iff.mp hm
  obtain ⟨ds, rfl⟩ := exists_of_label? hlabel
  exact h.label m ds (mem_nodes_of_subtree? hu)

/-- What histories list of a child with a sibling behind it. -/
theorem sibling (h : t.HasPlainSiblings) (hnode : t.subtree? path = some (node l cs)) :
    ∀ c ∈ cs.dropLast, c.baseLabel ≠ "" ∧ '_' ∉ c.baseLabel.toList := by
  intro c hc
  have hparent := mem_nodes_of_subtree? hnode
  refine ⟨h.base l cs hparent c hc, ?_⟩
  cases c with
  | leaf w =>
    cases w with
    | none => exact absurd rfl (h.base l cs hparent _ hc)
    | some w => exact not_mem_base (h.word l cs hparent w hc)
  | node m ds =>
    obtain ⟨j, hj⟩ := List.mem_iff_getElem?.mp (List.mem_of_mem_dropLast hc)
    exact not_mem_base (h.label m ds (mem_nodes_of_subtree? (subtree?_concat_eq_some_iff.mpr ⟨l, cs, hnode, hj⟩)))

end HasPlainSiblings

namespace HasInner

theorem recentSiblings_ne_nil (h : t.HasInner path i l cs) : recentSiblings cs i ≠ [] := by
  have hpos := h.pos
  have hlt := h.lt
  intro hnil
  have hlength : (recentSiblings cs i).length = min 2 i := by
    rw [recentSiblings, List.rtake, List.length_drop, List.length_map, List.length_take]
    omega
  rw [hnil, List.length_nil] at hlength
  omega

theorem not_mem_recentSiblings (h : t.HasInner path i l cs) (hplain : t.HasPlainSiblings) :
    ∀ s ∈ recentSiblings cs i, '_' ∉ s.toList := by
  intro s hs
  obtain ⟨c, hc, rfl⟩ := List.mem_map.mp (mem_of_mem_rtake hs)
  exact (hplain.sibling h.place c (mem_dropLast_of_mem_take h.lt hc)).2

theorem not_mem_annotatedLabel (h : t.HasInner path i l cs) (hplain : t.HasPlainSiblings) :
    '_' ∉ (annotatedLabel (t.parentLabel? path) l).toList :=
  Label.not_mem_annotatedLabel (hplain.label l cs (mem_nodes_of_subtree? h.place)) hplain.not_mem_parentLabel

/-- The label of an intermediate node lists the siblings in front that come last. -/
theorem labelAt?_eq (h : t.HasInner path i l cs) (hplain : t.HasPlainSiblings) :
    t.annotate.labelAt? (innerPath path i) =
      some (historyLabel (annotatedLabel (t.parentLabel? path) l) (recentSiblings cs i)) := by
  have hsiblings : ∀ s ∈ (cs.take i).map (siblingLabel (parentMark l)),
      base s ≠ "" ∧ '_' ∉ (base s).toList := by
    rw [List.forall_mem_map]
    intro c hc
    rw [base_siblingLabel]
    exact hplain.sibling h.place c (mem_dropLast_of_mem_take h.lt hc)
  rw [labelAt?, subtree?_innerPath h.place h.pos h.lt, Option.bind_some, label?,
    foldl_extendHistory (h.not_mem_annotatedLabel hplain) hsiblings, List.map_map, recentSiblings]
  congr 4
  exact funext (base_siblingLabel (parentMark l))

end HasInner

/-! ### The annotated form of a tree -/

/-- How an annotated tree is made of the nodes of a tree and of intermediate nodes. -/
structure IsMarkovized (t a : Tree) : Prop where
  leaves : a.leaves = t.leaves
  narrow : a.IsNarrow
  leaf : ∀ path w, t.subtree? path = some (leaf w) → a.subtree? (annotatedPath path) = some (Tree.leaf w)
  label : ∀ path l cs, t.subtree? path = some (node l cs) →
    a.labelAt? (annotatedPath path) = some (annotatedLabel (t.parentLabel? path) l)
  inner : ∀ path i l cs, t.HasInner path i l cs → ∃ k bs,
    a.subtree? (innerPath path i) = some (node k bs) ∧ leavesAll bs = leavesAll (cs.drop i)
  /-- Every place is that of one node of the tree, or that of one intermediate node. -/
  only : ∀ place, (a.subtree? place).isSome → ∃! p : List Nat × Nat, place = innerPath p.1 p.2 ∧
    (p.2 = 0 ∧ (t.subtree? p.1).isSome ∨ ∃ l cs, t.HasInner p.1 p.2 l cs)

theorem leavesAll_branches (h : String) {cs : List (String × Tree)} (hcs : cs ≠ []) :
    leavesAll (branches h cs) = leavesAll (cs.map Prod.snd) := by
  rw [← leavesAll_chain h, chain_eq_branches h hcs, leavesAll, leavesAll, leaves, List.append_nil]

theorem labelAt?_annotatedPath (h : t.subtree? path = some (node l cs)) :
    t.annotate.labelAt? (annotatedPath path) = some (annotatedLabel (t.parentLabel? path) l) := by
  rw [labelAt?, subtree?_annotatedPath h, annotatedBelow_node]
  rfl

theorem isMarkovized_annotate (t : Tree) : IsMarkovized t t.annotate where
  leaves := leaves_annotate t
  narrow := isNarrow_annotatedBelow none t
  leaf path w h := by rw [subtree?_annotatedPath h, annotatedBelow_leaf]
  label path l cs h := labelAt?_annotatedPath h
  inner path i l cs h := by
    refine ⟨_, _, subtree?_innerPath h.place h.pos h.lt, ?_⟩
    have hrest : cs.drop i ≠ [] := by
      rw [ne_eq, List.drop_eq_nil_iff, not_le]
      exact h.lt
    rw [leavesAll_branches _ (annotateAll_ne_nil _ hrest), leavesAll_annotateAll]
  only place h := by
    have hone : ∀ p q : List Nat × Nat, place = innerPath p.1 p.2 → place = innerPath q.1 q.2 → p = q :=
      fun p q hp hq => Prod.ext_iff.mpr (innerPath_inj.mp (hp.symm.trans hq))
    rcases exists_place_annotatedBelow none h with
      ⟨path, hpath, hplace⟩ | ⟨path, l, cs, i, hnode, hpos, hlt, hplace⟩
    · have hinner : place = innerPath path 0 := by rw [hplace, innerPath, List.replicate_zero, List.append_nil]
      exact ⟨(path, 0), ⟨hinner, Or.inl ⟨rfl, hpath⟩⟩, fun q hq => hone q _ hq.1 hinner⟩
    · exact ⟨(path, i), ⟨hplace, Or.inr ⟨l, cs, hnode, hpos, hlt⟩⟩, fun q hq => hone q _ hq.1 hplace⟩

/-- A tree over words has an annotated form, with the same leaves and at most two children below each node:
the nodes of the tree with the marks of their parents, and intermediate nodes. If the siblings in front can
be told apart, an intermediate node lists the base labels of the last two, and two intermediate nodes, of any
two such trees, have the same label if and only if the nodes that they stand under have the same label and
they list the same siblings. -/
theorem annotate_markovizes (t : Tree) (hwords : ∀ w ∈ t.leaves, w ≠ none) :
    ∃ a, t.annotate? = some a ∧ IsMarkovized t a ∧
      (t.HasPlainSiblings →
        (∀ path i l cs, t.HasInner path i l cs → a.labelAt? (innerPath path i) =
          some ("@" ++ annotatedLabel (t.parentLabel? path) l ++ "->_" ++
            "_".intercalate (recentSiblings cs i))) ∧
        ∀ t' a' : Tree, t'.annotate? = some a' → t'.HasPlainSiblings →
          ∀ path i l cs path' i' l' cs', t.HasInner path i l cs → t'.HasInner path' i' l' cs' →
            (a.labelAt? (innerPath path i) = a'.labelAt? (innerPath path' i') ↔
              a.labelAt? (annotatedPath path) = a'.labelAt? (annotatedPath path') ∧
                recentSiblings cs i = recentSiblings cs' i')) := by
  have hannotate : t.annotate? = some t.annotate := by rw [annotate?, if_pos (hasHistories_of_leaves t hwords)]
  refine ⟨t.annotate, hannotate, isMarkovized_annotate t, fun hplain => ⟨?_, ?_⟩⟩
  · exact fun path i l cs h => h.labelAt?_eq hplain
  · intro t' a' ha' hplain' path i l cs path' i' l' cs' h h'
    rw [annotate?] at ha'
    split_ifs at ha'
    obtain rfl := Option.some.inj ha'
    rw [h.labelAt?_eq hplain, h'.labelAt?_eq hplain', labelAt?_annotatedPath h.place,
      labelAt?_annotatedPath h'.place, Option.some.injEq, Option.some.injEq]
    exact historyLabel_inj (h.not_mem_annotatedLabel hplain) (h'.not_mem_annotatedLabel hplain')
      h.recentSiblings_ne_nil h'.recentSiblings_ne_nil (h.not_mem_recentSiblings hplain)
      (h'.not_mem_recentSiblings hplain')

/-- A noun phrase with two adjectives behind a first child. -/
def nounPhrase (first : String) : Tree :=
  node "S" [node "NP" [node first [ofWord "one"], node "JJ" [ofWord "big"], node "JJ^" [ofWord "old"],
    node "NN" [ofWord "dog"]], node "VP" [ofWord "barks"]]

theorem hasPlainSiblings_nounPhrase {first : String} (hne : base first ≠ "") (hno : '_' ∉ first.toList) :
    (nounPhrase first).HasPlainSiblings := by
  have hbase : base "NP" ≠ "" ∧ base "JJ" ≠ "" ∧ base "JJ^" ≠ "" := by decide
  constructor
  all_goals
    intro l cs hnode
    simp only [nounPhrase, nodes_node, nodes_leaf, List.flatMap_cons, List.flatMap_nil, List.cons_append,
      List.nil_append, List.mem_cons, List.not_mem_nil, or_false, node.injEq] at hnode
    rcases hnode with ⟨rfl, rfl⟩ | ⟨rfl, rfl⟩ | ⟨rfl, rfl⟩ | ⟨rfl, rfl⟩ | ⟨rfl, rfl⟩ | ⟨rfl, rfl⟩ | ⟨rfl, rfl⟩
    all_goals simp [baseLabel, hne, hno, hbase]

/-- What stands in front of the last two siblings is forgotten. -/
theorem annotate_markovizes_nounPhrase : ∃ a b,
    (nounPhrase "DT").annotate? = some a ∧ (nounPhrase "CD").annotate? = some b ∧
    IsMarkovized (nounPhrase "DT") a ∧
    a.labelAt? (innerPath [0] 3) = some "@NP^S->_JJ_JJ" ∧
    a.labelAt? (innerPath [0] 3) = b.labelAt? (innerPath [0] 3) := by
  have hwords : ∀ first, ∀ w ∈ (nounPhrase first).leaves, w ≠ none := by simp [nounPhrase]
  have hdt : (nounPhrase "DT").HasPlainSiblings := hasPlainSiblings_nounPhrase (by decide) (by decide)
  have hcd : (nounPhrase "CD").HasPlainSiblings := hasPlainSiblings_nounPhrase (by decide) (by decide)
  have hinner : ∀ first, ∃ cs, (nounPhrase first).HasInner [0] 3 "NP" cs ∧
      recentSiblings cs 3 = ["JJ", "JJ"] := fun first => ⟨_, ⟨rfl, by decide, by simp⟩, rfl⟩
  obtain ⟨a, ha, hmade, hlabels⟩ := annotate_markovizes (nounPhrase "DT") (hwords "DT")
  obtain ⟨b, hb, hmade', -⟩ := annotate_markovizes (nounPhrase "CD") (hwords "CD")
  obtain ⟨cs, hcs, hrecent⟩ := hinner "DT"
  obtain ⟨ds, hds, hrecent'⟩ := hinner "CD"
  obtain ⟨hlabel, hsame⟩ := hlabels hdt
  refine ⟨a, b, ha, hb, hmade, ?_, (hsame _ b hb hcd _ _ _ _ _ _ _ _ hcs hds).mpr ⟨?_, ?_⟩⟩
  · rw [hlabel _ _ _ _ hcs, hrecent]
    rfl
  · rw [hmade.label _ _ _ hcs.place, hmade'.label _ _ _ hds.place]
    rfl
  · rw [hrecent, hrecent']

end Tree

end Constituency
