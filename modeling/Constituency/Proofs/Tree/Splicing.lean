import Constituency.Proofs.Tree.Leaves
import Constituency.Proofs.Tree.Places

/-!
# Removing nodes

A removed node hands its children to its parent, so the labels that are left keep their order
(`labels_splice`), and removing nodes and then others is removing both at once (`splice_splice`). What stands
at a place and is not removed is found behind what is left of the trees in front of it, one level higher for
every removed node above it (`splicedPath`). Nothing else is left (`exists_splicedPath`), and one place is
above another if and only if it was (`prefix_splicedPath_iff`).
-/
namespace Constituency.Tree

variable {p : String → Bool} {t u c v : Tree} {cs : List Tree} {path path' : List Nat} {i j : Nat}

@[simp] theorem children_splice (p : String → Bool) (t : Tree) :
    (t.splice p).children = splicedAll p t.children := by
  cases t with
  | leaf w => rw [splice, children, splicedAll]
  | node l cs => rfl

@[simp] theorem label?_splice (p : String → Bool) (t : Tree) : (t.splice p).label? = t.label? := by
  cases t <;> rfl

theorem spliced_of_removed (h : t.label?.any p = true) : spliced p t = splicedAll p t.children := by
  cases t with
  | leaf w => exact absurd h (by simp [label?])
  | node l cs => exact if_pos h

theorem spliced_of_kept (h : t.label?.any p = false) : spliced p t = [t.splice p] := by
  cases t with
  | leaf w => rfl
  | node l cs => exact if_neg (Bool.eq_false_iff.mp h)

/-! ### Removing nodes twice -/

theorem flatMap_spliced (p q : String → Bool) (t : Tree) :
    (spliced p t).flatMap (spliced q) = spliced (fun l => p l || q l) t := by
  induction t using Tree.induction with
  | leaf w => simp [spliced]
  | node l cs ih =>
    have hcs : splicedAll q (splicedAll p cs) = splicedAll (fun l => p l || q l) cs := by
      rw [splicedAll_eq, splicedAll_eq, splicedAll_eq, List.flatMap_assoc]
      exact List.flatMap_congr ih
    rw [spliced, spliced]
    cases hp : p l with
    | true => simpa [splicedAll_eq] using hcs
    | false => simp [spliced, hcs]

/-- Removing nodes and then others is removing both at once. -/
theorem splice_splice (p q : String → Bool) (t : Tree) :
    (t.splice p).splice q = t.splice fun l => p l || q l := by
  cases t with
  | leaf w => rfl
  | node l cs =>
    rw [splice, splice, splice, splicedAll_eq, splicedAll_eq, splicedAll_eq, List.flatMap_assoc]
    congr 1
    exact List.flatMap_congr fun c _ => flatMap_spliced p q c

/-! ### Labels -/

/-- The labels of the nodes of a tree, each before those below it. -/
def labels (t : Tree) : List String := t.nodes.filterMap label?

@[simp] theorem labels_leaf (w : Word) : (leaf w).labels = [] := by simp [labels]

@[simp] theorem labels_node (l : String) (cs : List Tree) :
    (node l cs).labels = l :: cs.flatMap labels := by
  simp [labels, label?, List.filterMap_flatMap]
  rfl

theorem flatMap_labels_spliced (p : String → Bool) (t : Tree) :
    (spliced p t).flatMap labels = t.labels.filter fun l => !p l := by
  induction t using Tree.induction with
  | leaf w => simp [spliced]
  | node l cs ih =>
    have hcs : (splicedAll p cs).flatMap labels = (cs.flatMap labels).filter fun l => !p l := by
      rw [splicedAll_eq, List.flatMap_assoc, List.filter_flatMap]
      exact List.flatMap_congr ih
    rw [spliced]
    cases hp : p l with
    | true => simpa [hp] using hcs
    | false => simpa [hp] using hcs

/-- The label of the root stays, and of the others those that are not chosen, in their order. -/
theorem labels_splice (p : String → Bool) (t : Tree) :
    (t.splice p).labels = t.label?.toList ++ t.labels.tail.filter fun l => !p l := by
  cases t with
  | leaf w => simp [splice, label?]
  | node l cs =>
    rw [splice, labels_node, labels_node, List.tail_cons, splicedAll_eq, List.flatMap_assoc,
      List.filter_flatMap]
    exact congrArg (l :: ·) (List.flatMap_congr fun c _ => flatMap_labels_spliced p c)

/-! ### What is left of a list of trees -/

/-- What is left of a tree in a list stands behind what is left of the trees in front. -/
theorem getElem?_splicedAll (hc : cs[i]? = some c) (hv : (spliced p c)[j]? = some v) :
    (splicedAll p cs)[(splicedAll p (cs.take i)).length + j]? = some v := by
  induction cs generalizing i with
  | nil => exact absurd hc (by simp)
  | cons d cs ih =>
    rw [splicedAll]
    cases i with
    | zero =>
      obtain rfl := Option.some.inj hc
      rw [List.take_zero, splicedAll, List.length_nil, Nat.zero_add,
        List.getElem?_append_left (List.getElem?_eq_some_iff.mp hv).1]
      exact hv
    | succ i =>
      rw [List.take_succ_cons, splicedAll, List.length_append, Nat.add_assoc,
        List.getElem?_append_right (Nat.le_add_right _ _), Nat.add_sub_cancel_left]
      exact ih hc

/-- Whatever is left of a list is left of one of its trees. -/
theorem exists_of_getElem?_splicedAll (h : (splicedAll p cs)[j]? = some v) :
    ∃ i c k, cs[i]? = some c ∧ (spliced p c)[k]? = some v ∧
      j = (splicedAll p (cs.take i)).length + k := by
  induction cs generalizing j with
  | nil => exact absurd h (by simp [splicedAll])
  | cons d cs ih =>
    rw [splicedAll] at h
    by_cases hj : j < (spliced p d).length
    · rw [List.getElem?_append_left hj] at h
      exact ⟨0, d, j, rfl, h, by simp [splicedAll]⟩
    · rw [List.getElem?_append_right (by omega)] at h
      obtain ⟨i, c, k, hc, hv, hk⟩ := ih h
      refine ⟨i + 1, c, k, hc, hv, ?_⟩
      rw [List.take_succ_cons, splicedAll, List.length_append]
      omega

/-- What is left of a tree in a list stands in front of what is left of the trees behind it. -/
theorem length_splicedAll_take_le (hc : cs[i]? = some c) (hij : i < j) :
    (splicedAll p (cs.take i)).length + (spliced p c).length ≤ (splicedAll p (cs.take j)).length := by
  induction cs generalizing i j with
  | nil => exact absurd hc (by simp)
  | cons d cs ih =>
    obtain ⟨j, rfl⟩ : ∃ k, j = k + 1 := ⟨j - 1, by omega⟩
    rw [List.take_succ_cons, splicedAll, List.length_append]
    cases i with
    | zero =>
      obtain rfl := Option.some.inj hc
      rw [List.take_zero, splicedAll, List.length_nil]
      omega
    | succ i =>
      have hrest := ih hc (Nat.lt_of_succ_lt_succ hij)
      rw [List.take_succ_cons, splicedAll, List.length_append]
      omega

/-! ### Places -/

/-- Whether what stands at a place of a tree stays: the root, leaves, and nodes with a label that is not
chosen. -/
def Survives (p : String → Bool) (t : Tree) (path : List Nat) : Prop :=
  ∃ u, t.subtree? path = some u ∧ (path ≠ [] → u.label?.any p = false)

/-- Where what stands at a place of a tree is found when nodes are removed. The place of a removed node leads
nowhere. -/
def splicedPath (p : String → Bool) : Tree → List Nat → List Nat
  | _, [] => []
  | t, i :: path =>
      let before := (splicedAll p (t.children.take i)).length
      match t.children[i]? with
      | none => []
      | some c =>
          if c.label?.any p then (splicedPath p c path).modifyHead (before + ·)
          else before :: splicedPath p c path

@[simp] theorem splicedPath_nil (p : String → Bool) (t : Tree) : splicedPath p t [] = [] := by
  rw [splicedPath]

theorem splicedPath_of_removed (hc : t.children[i]? = some c) (h : c.label?.any p = true)
    (path : List Nat) : splicedPath p t (i :: path) =
      (splicedPath p c path).modifyHead ((splicedAll p (t.children.take i)).length + ·) := by
  rw [splicedPath, hc]
  exact if_pos h

theorem splicedPath_of_kept (hc : t.children[i]? = some c) (h : c.label?.any p = false)
    (path : List Nat) : splicedPath p t (i :: path) =
      (splicedAll p (t.children.take i)).length :: splicedPath p c path := by
  rw [splicedPath, hc]
  exact if_neg (Bool.eq_false_iff.mp h)

theorem Survives.of_cons (h : Survives p t (i :: path)) :
    ∃ c u, t.children[i]? = some c ∧ c.subtree? path = some u ∧ u.label?.any p = false := by
  obtain ⟨u, hu, hkept⟩ := h
  obtain ⟨c, hc, huc⟩ := Option.bind_eq_some_iff.mp hu
  exact ⟨c, u, hc, huc, hkept (by simp)⟩

/-- A place below the root that stays leads into what is left of the child that it is in. -/
theorem exists_splicedPath_eq (hc : t.children[i]? = some c) (hu : c.subtree? path = some u)
    (hkept : u.label?.any p = false) :
    ∃ j rest v, splicedPath p t (i :: path) = ((splicedAll p (t.children.take i)).length + j) :: rest ∧
      (spliced p c)[j]? = some v ∧ v.subtree? rest = some (u.splice p) := by
  induction path generalizing t i c with
  | nil =>
    obtain rfl := Option.some.inj hu
    exact ⟨0, [], c.splice p, by simp [splicedPath_of_kept hc hkept], by simp [spliced_of_kept hkept], rfl⟩
  | cons k path ih =>
    obtain ⟨d, hd, hud⟩ := Option.bind_eq_some_iff.mp hu
    obtain ⟨j, rest, v, hpath, hv, hrest⟩ := ih hd hud
    have hplace := getElem?_splicedAll hd hv
    cases hc' : c.label?.any p with
    | true =>
      -- the children of a removed node stand among those of its parent
      refine ⟨(splicedAll p (c.children.take k)).length + j, rest, v, ?_, ?_, hrest⟩
      · rw [splicedPath_of_removed hc hc', hpath, List.modifyHead_cons]
      · rw [spliced_of_removed hc', hplace]
    | false =>
      refine ⟨0, splicedPath p c (k :: path), c.splice p, splicedPath_of_kept hc hc' _, ?_, ?_⟩
      · simp [spliced_of_kept hc']
      · rw [hpath, subtree?_cons, children_splice, hplace, Option.bind_some, hrest]

/-- What stays is found where its place leads, with what is left below it. -/
theorem subtree?_splicedPath (hu : t.subtree? path = some u)
    (hkept : path ≠ [] → u.label?.any p = false) :
    (t.splice p).subtree? (splicedPath p t path) = some (u.splice p) := by
  cases path with
  | nil =>
    obtain rfl := Option.some.inj hu
    simp
  | cons i path =>
    obtain ⟨c, hc, huc⟩ := Option.bind_eq_some_iff.mp hu
    obtain ⟨j, rest, v, hpath, hv, hrest⟩ := exists_splicedPath_eq hc huc (hkept (by simp))
    rw [hpath, subtree?_cons, children_splice, getElem?_splicedAll hc hv, Option.bind_some, hrest]

/-- Nothing else is left. -/
theorem exists_splicedPath {place : List Nat} (h : ((t.splice p).subtree? place).isSome) :
    ∃ path, Survives p t path ∧ splicedPath p t path = place := by
  induction t using Tree.induction generalizing place with
  | leaf w =>
    cases place with
    | nil => exact ⟨[], ⟨_, rfl, by simp⟩, by simp⟩
    | cons j rest => exact absurd h (by simp [splice, subtree?_cons, children])
  | node l cs ih =>
    cases place with
    | nil => exact ⟨[], ⟨_, rfl, by simp⟩, by simp⟩
    | cons j rest =>
      rw [subtree?_cons, children_splice] at h
      obtain ⟨v, hv⟩ := Option.isSome_iff_exists.mp (Option.isSome_of_isSome_bind h)
      rw [hv, Option.bind_some] at h
      obtain ⟨i, c, k, hc, hk, rfl⟩ := exists_of_getElem?_splicedAll hv
      have hbelow : ∀ path, (node l cs).subtree? (i :: path) = c.subtree? path := by
        intro path
        rw [subtree?_cons, hc, Option.bind_some]
      cases hc' : c.label?.any p with
      | true =>
        rw [spliced_of_removed hc'] at hk
        have hplace : ((c.splice p).subtree? (k :: rest)).isSome := by
          rwa [subtree?_cons, children_splice, hk, Option.bind_some]
        obtain ⟨path, ⟨u, hu, hkept⟩, hpath⟩ := ih c (List.mem_of_getElem? hc) hplace
        have hne : path ≠ [] := by
          rintro rfl
          exact absurd hpath (by simp)
        refine ⟨i :: path, ⟨u, (hbelow path).trans hu, fun _ => hkept hne⟩, ?_⟩
        rw [splicedPath_of_removed hc hc', hpath, List.modifyHead_cons]
      | false =>
        rw [spliced_of_kept hc', List.getElem?_singleton] at hk
        split_ifs at hk with hzero
        obtain rfl := Option.some.inj hk
        obtain ⟨path, ⟨u, hu, hkept⟩, hpath⟩ := ih c (List.mem_of_getElem? hc) h
        refine ⟨i :: path, ⟨u, (hbelow path).trans hu, fun _ => ?_⟩, ?_⟩
        · cases path with
          | nil => exact Option.some.inj hu ▸ hc'
          | cons m path => exact hkept (by simp)
        · rw [splicedPath_of_kept hc hc', hpath, hzero, Nat.add_zero]

theorem prefix_modifyHead_iff {n : Nat} {xs ys : List Nat} :
    xs.modifyHead (n + ·) <+: ys.modifyHead (n + ·) ↔ xs <+: ys := by
  cases xs with
  | nil => simp
  | cons x xs =>
    cases ys with
    | nil => simp
    | cons y ys => simp [List.cons_prefix_cons]

/-- Of two places that stay, one is above the other if and only if it was. -/
theorem prefix_splicedPath_iff (h : Survives p t path) (h' : Survives p t path') :
    splicedPath p t path <+: splicedPath p t path' ↔ path <+: path' := by
  induction path generalizing t path' with
  | nil => simp
  | cons i path ih =>
    obtain ⟨c, u, hc, hu, hkept⟩ := h.of_cons
    obtain ⟨j, rest, v, hplace, hv, -⟩ := exists_splicedPath_eq hc hu hkept
    cases path' with
    | nil =>
      rw [hplace]
      simp
    | cons i' path' =>
      obtain ⟨c', u', hc', hu', hkept'⟩ := h'.of_cons
      by_cases hi : i = i'
      · subst hi
        obtain rfl := Option.some.inj (hc.symm.trans hc')
        have hbelow := ih ⟨u, hu, fun _ => hkept⟩ ⟨u', hu', fun _ => hkept'⟩
        rw [List.cons_prefix_cons, and_iff_right rfl, ← hbelow]
        cases hremoved : c.label?.any p with
        | true =>
          rw [splicedPath_of_removed hc hremoved, splicedPath_of_removed hc hremoved,
            prefix_modifyHead_iff]
        | false =>
          rw [splicedPath_of_kept hc hremoved, splicedPath_of_kept hc hremoved, List.cons_prefix_cons,
            and_iff_right rfl]
      · -- what is left of two children stands at different places
        obtain ⟨j', rest', v', hplace', hv', -⟩ := exists_splicedPath_eq hc' hu' hkept'
        have hne : (splicedAll p (t.children.take i)).length + j ≠
            (splicedAll p (t.children.take i')).length + j' := by
          have hj := (List.getElem?_eq_some_iff.mp hv).1
          have hj' := (List.getElem?_eq_some_iff.mp hv').1
          rcases Nat.lt_or_gt_of_ne hi with hlt | hlt
          · have hle := length_splicedAll_take_le (p := p) hc hlt
            omega
          · have hle := length_splicedAll_take_le (p := p) hc' hlt
            omega
        rw [hplace, hplace', List.cons_prefix_cons, List.cons_prefix_cons]
        exact iff_of_false (fun h => hne h.1) (fun h => hi h.1)

theorem splicedPath_inj (h : Survives p t path) (h' : Survives p t path')
    (heq : splicedPath p t path = splicedPath p t path') : path = path' := by
  have hle : path <+: path' := (prefix_splicedPath_iff h h').mp (heq ▸ List.prefix_rfl)
  have hge : path' <+: path := (prefix_splicedPath_iff h' h).mp (heq ▸ List.prefix_rfl)
  exact hle.eq_of_length (Nat.le_antisymm hle.length_le hge.length_le)

/-- How a tree is left when nodes are removed. -/
structure IsSpliced (p : String → Bool) (t s : Tree) : Prop where
  label : s.label? = t.label?
  leaves : s.leaves = t.leaves
  labels : s.labels = t.label?.toList ++ t.labels.tail.filter fun l => !p l
  /-- What stays is found where its place leads, with what is left below it. -/
  place : ∀ path u, Survives p t path → t.subtree? path = some u →
    s.subtree? (splicedPath p t path) = some (u.splice p)
  /-- Every place that is left is that of one thing that stays. -/
  only : ∀ place, (s.subtree? place).isSome → ∃! path, Survives p t path ∧ splicedPath p t path = place
  above : ∀ path path', Survives p t path → Survives p t path' →
    (splicedPath p t path <+: splicedPath p t path' ↔ path <+: path')

theorem isSpliced_splice (p : String → Bool) (t : Tree) : IsSpliced p t (t.splice p) where
  label := label?_splice p t
  leaves := leaves_splice p t
  labels := labels_splice p t
  place := by
    rintro path u ⟨v, hv, hkept⟩ hu
    obtain rfl := Option.some.inj (hv.symm.trans hu)
    exact subtree?_splicedPath hv hkept
  only := by
    intro place hplace
    obtain ⟨path, hpath, rfl⟩ := exists_splicedPath hplace
    exact ⟨path, ⟨hpath, rfl⟩, fun path' h => splicedPath_inj h.1 hpath h.2⟩
  above path path' h h' := prefix_splicedPath_iff h h'

/-- Removing nodes keeps the root, the leaves, and the nodes whose labels are not chosen, in their order and one
above the other as they were. Removing nodes and then others is removing both at once; so nothing is left to
be removed a second time, and the order does not matter. -/
theorem splice_removes (p q : String → Bool) (t : Tree) :
    IsSpliced p t (t.splice p) ∧
    (t.splice p).splice q = t.splice (fun l => p l || q l) ∧
    (t.splice p).splice p = t.splice p ∧
    (t.splice p).splice q = (t.splice q).splice p := by
  refine ⟨isSpliced_splice p t, splice_splice p q t, ?_, ?_⟩
  · simp [splice_splice]
  · simp only [splice_splice, Bool.or_comm]

/-- A sentence with a verb phrase that has a node without children, and a node over a noun phrase. -/
def wrappedPhrase : Tree :=
  node "S" [node "X" [node "NP" [ofWord "a"], node "Y" []], node "VP" [node "X" [node "NP" [ofWord "b"]]]]

/-- A noun phrase comes to stand where the node above it stood, below the same verb phrase. -/
theorem splice_removes_wrappedPhrase :
    Survives (· == "X") wrappedPhrase [1] ∧ Survives (· == "X") wrappedPhrase [1, 0, 0] ∧
    (wrappedPhrase.splice (· == "X")).subtree? [2, 0] = some (node "NP" [ofWord "b"]) ∧
    splicedPath (· == "X") wrappedPhrase [1] <+: splicedPath (· == "X") wrappedPhrase [1, 0, 0] ∧
    (wrappedPhrase.splice (· == "X")).labels = ["S", "NP", "Y", "VP", "NP"] ∧
    (wrappedPhrase.splice (· == "X")).splice (· == "VP") =
      (wrappedPhrase.splice (· == "VP")).splice (· == "X") := by
  have hverb : Survives (· == "X") wrappedPhrase [1] := ⟨_, rfl, fun _ => rfl⟩
  have hnoun : Survives (· == "X") wrappedPhrase [1, 0, 0] := ⟨_, rfl, fun _ => rfl⟩
  obtain ⟨hspliced, -, -, hswap⟩ := splice_removes (· == "X") (· == "VP") wrappedPhrase
  refine ⟨hverb, hnoun, hspliced.place [1, 0, 0] _ hnoun rfl, ?_, ?_, hswap⟩
  · exact (hspliced.above _ _ hverb hnoun).mpr (by simp)
  · rw [hspliced.labels]
    simp [wrappedPhrase, label?]

end Constituency.Tree
