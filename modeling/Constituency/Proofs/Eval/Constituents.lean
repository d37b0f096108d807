import Constituency.Eval.Constituents
import Constituency.Proofs.Eval.Counts
import Constituency.Proofs.Tree.Places

/-!
# Constituents and places

Every node of a tree spans the leaves below it, behind those in front of its place (`spans`). The constituents
of a tree are the spans of the nodes whose first child is a node (`toMultiset_constituents`). These are the
phrasal nodes and those with a leaf behind a first child that is a node.
-/
namespace Constituency.Tree

/-- Whether a tree is a node whose first child is a node. -/
def startsWithNode : Tree → Bool
  | node _ (node _ _ :: _) => true
  | _ => false

/-- Whether a tree is a node whose first child is a node, with a leaf behind it. -/
def isMixed (t : Tree) : Bool := t.startsWithNode && !t.isPhrasal

theorem startsWithNode_of_isPhrasal {t : Tree} (h : t.isPhrasal = true) : t.startsWithNode = true := by
  match t with
  | node _ (node _ _ :: _) => rfl
  | node _ (leaf _ :: _) => exact absurd h (by simp [isPhrasal, isLeaf])
  | node _ [] => exact absurd h (by simp [isPhrasal])
  | leaf _ => exact absurd h (by simp [isPhrasal])

/-! ### Spans -/

variable (kind : Tree → Bool) (skip : List String)

/-- The span of a tree whose first leaf has a given place, if it is a node of a kind and without a label
in `skip`. -/
def span? (start : Nat) : Tree → Option Constituent
  | leaf _ => none
  | node l cs =>
    if kind (node l cs) && !skip.contains l then
      some ⟨l, start, start + (node l cs).leaves.length⟩
    else none

/-- The span of what stands at a place of a tree whose first leaf has a given place. -/
def spanAt? (start : Nat) (t : Tree) (path : List Nat) : Option Constituent :=
  (t.subtree? path).bind (span? kind skip (start + (t.leavesBefore path).length))

/-- The spans of the nodes of a tree whose first leaf has a given place. -/
def spansFrom (start : Nat) (t : Tree) : List Constituent := t.places.filterMap (spanAt? kind skip start t)

/-- The spans of the nodes of adjacent trees. -/
def spansAll (start : Nat) : List Tree → List Constituent
  | [] => []
  | c :: cs => spansFrom kind skip start c ++ spansAll (start + c.leaves.length) cs

/-- The multiset of the spans of all nodes of a kind, without those labeled in `skip`. -/
def spans (t : Tree) : Multiset Constituent := t.nodePlaces.val.filterMap (spanAt? kind skip 0 t)

variable {kind skip} {start : Nat} {t c : Tree}

theorem spans_eq (t : Tree) : t.spans kind skip = spansFrom kind skip 0 t := rfl

/-- No span is listed if and only if no node whose label counts is of the kind. -/
theorem spans_eq_zero_iff : t.spans kind skip = 0 ↔
    ∀ path l cs, t.subtree? path = some (node l cs) → l ∉ skip → kind (node l cs) = false := by
  rw [spans_eq, Multiset.coe_eq_zero, spansFrom, List.filterMap_eq_nil_iff]
  constructor
  · intro h path l cs hnode hl
    have hspan := h path (mem_nodePlaces.mpr ⟨l, cs, hnode⟩)
    rw [spanAt?, hnode, Option.bind_some, span?] at hspan
    simpa [hl] using hspan
  · intro h path hpath
    obtain ⟨l, cs, hnode⟩ := mem_nodePlaces.mp hpath
    rw [spanAt?, hnode, Option.bind_some, span?, if_neg]
    rw [Bool.and_eq_true]
    rintro ⟨hkind, hl⟩
    rw [h path l cs hnode (by simpa using hl)] at hkind
    exact absurd hkind Bool.false_ne_true

/-- Of two kinds that exclude each other, at most one has a span at a place. -/
theorem spanAt?_or {kind' : Tree → Bool} (hdisjoint : ∀ u, kind u = true → kind' u = false) (t : Tree)
    (path : List Nat) :
    (spanAt? kind skip start t path = none ∧
      spanAt? (fun u => kind u || kind' u) skip start t path = spanAt? kind' skip start t path) ∨
    (spanAt? kind' skip start t path = none ∧
      spanAt? (fun u => kind u || kind' u) skip start t path = spanAt? kind skip start t path) := by
  rw [spanAt?, spanAt?, spanAt?]
  cases t.subtree? path with
  | none => exact Or.inl ⟨rfl, rfl⟩
  | some u =>
    simp only [Option.bind_some]
    cases u with
    | leaf w => exact Or.inl ⟨rfl, rfl⟩
    | node l cs =>
      by_cases hkind : kind (node l cs) = true
      · apply Or.inr
        simp [span?, hkind, hdisjoint _ hkind]
      · apply Or.inl
        simp [span?, hkind]

/-- The spans of two kinds that exclude each other are added up. -/
theorem spans_or {kind' : Tree → Bool} (hdisjoint : ∀ u, kind u = true → kind' u = false) (t : Tree) :
    t.spans (fun u => kind u || kind' u) skip = t.spans kind skip + t.spans kind' skip := by
  simp only [spans_eq, spansFrom, Multiset.coe_add, Multiset.coe_eq_coe]
  induction t.places with
  | nil => exact List.Perm.nil
  | cons path paths ih =>
    rw [List.filterMap_cons, List.filterMap_cons, List.filterMap_cons]
    obtain ⟨hnone, hor⟩ | ⟨hnone, hor⟩ := @spanAt?_or kind skip 0 kind' hdisjoint t path
    · rw [hor, hnone]
      cases spanAt? kind' skip 0 t path with
      | none => exact ih
      | some b => exact (ih.cons b).trans List.perm_middle.symm
    · rw [hor, hnone]
      cases spanAt? kind skip 0 t path with
      | none => exact ih
      | some b => exact ih.cons b

@[simp] theorem spansFrom_leaf (w : Word) : spansFrom kind skip start (leaf w) = [] := by
  rw [spansFrom, places, List.filterMap_nil]

/-- A place below a child spans what it spans in the child, behind the children in front. -/
theorem spanAt?_cons {i : Nat} (hc : t.children[i]? = some c) (path : List Nat) :
    spanAt? kind skip start t (i :: path) =
      spanAt? kind skip (start + (leavesAll (t.children.take i)).length) c path := by
  rw [spanAt?, spanAt?, subtree?_cons, hc, Option.bind_some, leavesBefore_cons hc, List.length_append,
    Nat.add_assoc]

/-- The spans below some of the children of a node, behind the others. The induction moves one child after the
other to those in front. -/
theorem filterMap_placesAll (l : String) (front cs : List Tree) :
    (placesAll front.length cs).filterMap (spanAt? kind skip start (node l (front ++ cs))) =
      spansAll kind skip (start + (leavesAll front).length) cs := by
  induction cs generalizing front with
  | nil => rfl
  | cons c cs ih =>
    have hfirst : (node l (front ++ c :: cs)).children[front.length]? = some c := by simp [children]
    have hrest := ih (front ++ [c])
    rw [List.length_append, List.append_assoc] at hrest
    rw [placesAll, List.filterMap_append, List.filterMap_map, spansAll]
    congr 1
    · refine List.filterMap_congr fun path _ => ?_
      rw [Function.comp_apply, spanAt?_cons hfirst, children, List.take_left' rfl]
    · refine hrest.trans ?_
      rw [leavesAll_append, leavesAll, leavesAll, List.append_nil, List.length_append, Nat.add_assoc]

theorem spansFrom_node (l : String) (cs : List Tree) :
    spansFrom kind skip start (node l cs) =
      (span? kind skip start (node l cs)).toList ++ spansAll kind skip start cs := by
  have hbelow : (placesAll 0 cs).filterMap (spanAt? kind skip start (node l cs)) =
      spansAll kind skip start cs := filterMap_placesAll l [] cs
  have hroot : spanAt? kind skip start (node l cs) [] = span? kind skip start (node l cs) := rfl
  rw [spansFrom, places, List.filterMap_cons, hroot]
  cases span? kind skip start (node l cs) with
  | none => exact hbelow
  | some b => exact congrArg (b :: ·) hbelow

/-! ### The constituents of a tree -/

mutual

/-- The place behind the last leaf. -/
theorem constituentsFrom_snd (start : Nat) :
    ∀ t : Tree, (constituentsFrom skip start t).2 = start + t.leaves.length
  | leaf w => by rw [constituentsFrom, leaves, List.length_singleton]
  | node l cs => by
      have hcs := constituentsAll_snd start cs
      rw [leaves]
      unfold constituentsFrom
      split
      · split_ifs <;> exact hcs
      · exact hcs

theorem constituentsAll_snd (start : Nat) :
    ∀ cs : List Tree, (constituentsAll skip start cs).2 = start + (leavesAll cs).length
  | [] => rfl
  | c :: cs => by
      rw [constituentsAll, leavesAll, List.length_append, constituentsAll_snd _ cs,
        constituentsFrom_snd start c, Nat.add_assoc]

end

/-- A node is listed behind what is below it. -/
theorem constituentsFrom_node (l : String) (cs : List Tree) :
    (constituentsFrom skip start (node l cs)).1 =
      (constituentsAll skip start cs).1 ++ (span? startsWithNode skip start (node l cs)).toList := by
  have hstop : (constituentsAll skip start cs).2 = start + (leavesAll cs).length :=
    constituentsAll_snd start cs
  match cs with
  | [] => simp [constituentsFrom, span?, startsWithNode]
  | leaf w :: cs => simp [constituentsFrom, span?, startsWithNode]
  | node m ds :: cs =>
    rw [constituentsFrom, span?, leaves, ← hstop, startsWithNode, Bool.true_and]
    cases skip.contains l with
    | true => simp
    | false => simp

mutual

theorem constituentsFrom_perm (start : Nat) : ∀ t : Tree,
    (constituentsFrom skip start t).1.Perm (spansFrom startsWithNode skip start t)
  | leaf w => by
      rw [constituentsFrom, spansFrom_leaf]
  | node l cs => by
      rw [constituentsFrom_node, spansFrom_node]
      exact List.perm_append_comm.trans ((constituentsAll_perm start cs).append_left _)

theorem constituentsAll_perm (start : Nat) : ∀ cs : List Tree,
    (constituentsAll skip start cs).1.Perm (spansAll startsWithNode skip start cs)
  | [] => by
      rw [constituentsAll, spansAll]
  | c :: cs => by
      rw [constituentsAll, spansAll, constituentsFrom_snd]
      exact (constituentsFrom_perm start c).append (constituentsAll_perm _ cs)

end

theorem toMultiset_constituents (t : Tree) (skip : List String) :
    (t.constituents skip).toMultiset = t.spans startsWithNode skip := by
  rw [constituents, Counts.toMultiset_ofList, spans_eq]
  exact Multiset.coe_eq_coe.mpr (constituentsFrom_perm 0 t)

theorem startsWithNode_eq (t : Tree) : t.startsWithNode = (t.isPhrasal || t.isMixed) := by
  rw [isMixed]
  cases hphrasal : t.isPhrasal with
  | true => simp [startsWithNode_of_isPhrasal hphrasal]
  | false => simp

/-- The constituents of a tree are the spans of the nodes whose first child is a node: those of the phrasal
nodes, and those of the mixed ones as well. Each span covers the leaves of its node, behind those in front. -/
theorem constituents_eq_spans (t : Tree) (skip : List String) :
    (t.constituents skip).toMultiset = t.spans startsWithNode skip ∧
    (t.constituents skip).toMultiset = t.spans isPhrasal skip + t.spans isMixed skip ∧
    ((t.constituents skip).toMultiset = t.spans isPhrasal skip ↔
      ∀ path l cs, t.subtree? path = some (node l cs) → l ∉ skip → (node l cs).isMixed = false) ∧
    ∀ path u, t.subtree? path = some u →
      ∃ after, t.leaves = t.leavesBefore path ++ u.leaves ++ after := by
  have hmixed : ∀ u : Tree, u.isPhrasal = true → u.isMixed = false := fun u hu => by simp [isMixed, hu]
  have hadd : t.spans startsWithNode skip = t.spans isPhrasal skip + t.spans isMixed skip := by
    rw [← spans_or hmixed, funext startsWithNode_eq]
  rw [toMultiset_constituents]
  refine ⟨rfl, hadd, ?_, fun path u => exists_leaves_eq⟩
  rw [hadd, add_eq_left, spans_eq_zero_iff]

/-- A node with a node and a word as its children is no phrasal node, and is counted. -/
theorem constituents_ne_spans_mixedNode :
    let t := node "X" [node "A" [ofWord "a"], ofWord "b"]
    (t.constituents []).toMultiset = {⟨"X", 0, 2⟩} ∧
      (t.constituents []).toMultiset ≠ t.spans isPhrasal [] := by
  decide

end Constituency.Tree
