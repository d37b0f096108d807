import Constituency.Proofs.Grammar.Productions
import Constituency.Proofs.Tree.RoundTrip

/-!
# Which trees are annotated ones

Take labels without any of the marks that annotations use. Then a label of a binarized tree tells which node
of the original tree it belongs to, and which siblings stand in front of it (`IsPosition.unique`), and the
production at a node continues both (`Production.IsAnnotated`). Conversely, a tree all of whose productions
do so is the annotated form of a tree, wherever the productions come from (`exists_annotate`).
-/
namespace Constituency

namespace Label

/-- A label without marks of annotations. -/
structure IsBare (l : String) : Prop where
  ne_empty : l ≠ ""
  no_caret : '^' ∉ l.toList
  no_at : '@' ∉ l.toList
  no_underscore : '_' ∉ l.toList
  hyphen : l.toList.head? = some '-' ∨ '-' ∉ l.toList

theorem IsBare.isRestorable {l : String} (h : IsBare l) : IsRestorable l :=
  ⟨h.ne_empty, h.no_caret, fun hat => h.no_at (List.mem_of_head? hat), h.hyphen⟩

theorem parentMark_of_toList {l m : String} (h : baseChars l.toList = m.toList) (hm : '@' ∉ m.toList) :
    parentMark l = m := by
  rw [← String.toList_inj, parentMark, toList_onChars, h, List.filter_eq_self]
  intro c hc
  exact bne_iff_ne.mpr (ne_of_mem_of_not_mem hc hm)

theorem IsBare.parentMark_eq {l : String} (h : IsBare l) : parentMark l = l :=
  parentMark_of_toList (takeWhile_eq_self_of_notMem h.no_caret) h.no_at

theorem IsBare.parentMark_withParent {l : String} (h : IsBare l) (m : String) :
    parentMark (withParent l m) = l := by
  rw [Label.parentMark_withParent, h.parentMark_eq]

/-- The label of a node that binarization has not introduced: that of a root, or one with the label of the
parent. -/
inductive IsOriginal : String → Prop
  | root {l : String} (hl : IsBare l) : IsOriginal l
  | below {l m : String} (hl : IsBare l) (hm : IsBare m) : IsOriginal (withParent l m)

namespace IsOriginal

variable {l : String}

theorem isBare_parentMark (h : IsOriginal l) : IsBare (parentMark l) := by
  cases h with
  | root hl =>
    rw [hl.parentMark_eq]
    exact hl
  | below hl hm =>
    rw [hl.parentMark_withParent]
    exact hl

theorem no_underscore (h : IsOriginal l) : '_' ∉ l.toList := by
  cases h with
  | root hl => exact hl.no_underscore
  | below hl hm => simp [hl.no_underscore, hm.no_underscore]

theorem not_isIntermediate (h : IsOriginal l) : isIntermediate l = false := by
  have hbare : ∀ {k : String}, IsBare k → isIntermediate k = false := by
    intro k hk
    have hat := hk.isRestorable.2.2.1
    simpa [isIntermediate] using hat
  cases h with
  | root hl => exact hbare hl
  | below hl hm =>
    rw [isIntermediate_withParent hl.ne_empty]
    exact hbare hl

end IsOriginal

/-- A label of the binarized form of a node labeled `l`, and the history of the children that stand in front:
the label of the node itself, before any of them, or that of an intermediate node. -/
inductive IsPosition (l : String) : String → String → Prop
  | top : IsPosition l l (emptyHistory l)
  | inner {h : String} (hh : IsHistoryOf l h) : IsPosition l h h

namespace IsPosition

variable {l m k h h' : String}

theorem isHistoryOf (hk : IsPosition l k h) : IsHistoryOf l h := by
  cases hk with
  | top => exact .empty
  | inner hh => exact hh

/-- A label tells the node that it belongs to, and the history. -/
theorem unique (hl : IsOriginal l) (hm : IsOriginal m) (hk : IsPosition l k h)
    (hk' : IsPosition m k h') : l = m ∧ h = h' := by
  have hno : ∀ {a b : String}, IsOriginal a → ¬ IsHistoryOf b a := by
    intro a b ha hb
    have hfirst := hb.isIntermediate
    rw [ha.not_isIntermediate] at hfirst
    exact absurd hfirst (by decide)
  cases hk with
  | top =>
    cases hk' with
    | top => exact ⟨rfl, rfl⟩
    | inner hh => exact absurd hh (hno hl)
  | inner hh =>
    cases hk' with
    | top => exact absurd hh (hno hm)
    | inner hh' => exact ⟨hh.unique hl.no_underscore hm.no_underscore hh', rfl⟩

end IsPosition

end Label

open Label

/-- The productions of annotated trees. The children of a node remember it as their parent, and an
intermediate node remembers one child more than the node above it. -/
inductive Production.IsAnnotated : Production → Prop
  | tag {l k h : String} (hl : IsOriginal l) (hk : IsPosition l k h) : IsAnnotated (.tag k)
  | unary {l k h c : String} (hl : IsOriginal l) (hk : IsPosition l k h) (hc : IsBare c) :
      IsAnnotated (.unary k (withParent c (parentMark l)))
  | binary {l k h c : String} (hl : IsOriginal l) (hk : IsPosition l k h) (hc : IsBare c) :
      IsAnnotated (.binary k (withParent c (parentMark l))
        (extendHistory h (withParent c (parentMark l))))

namespace Tree

/-- Whether all labels of a tree are free of marks. -/
def HasBareLabels (t : Tree) : Prop := ∀ u ∈ t.nodes, ∀ l, u.label? = some l → IsBare l

@[simp] theorem hasBareLabels_leaf (w : Word) : (leaf w).HasBareLabels := by simp [HasBareLabels]

@[simp] theorem hasBareLabels_node (l : String) (cs : List Tree) :
    (node l cs).HasBareLabels ↔ IsBare l ∧ ∀ c ∈ cs, c.HasBareLabels := by
  simp only [HasBareLabels, nodes_node, List.forall_mem_cons, List.forall_mem_flatMap, label?,
    Option.some.injEq, forall_eq']

/-- Whether all productions of a tree are those of annotated trees, as far as its nodes have any. -/
def IsConsistent (t : Tree) : Prop := ∀ u ∈ t.nodes, ∀ q, u.production? = some q → q.IsAnnotated

theorem isConsistent_node (l : String) (cs : List Tree) :
    (node l cs).IsConsistent ↔
      (∀ q, (node l cs).production? = some q → q.IsAnnotated) ∧ ∀ c ∈ cs, c.IsConsistent := by
  simp only [IsConsistent, nodes_node, List.forall_mem_cons, List.forall_mem_flatMap]

/-- What stands below a node after a history, for children with the labels that they add to it. -/
def branches (history : String) : List (String × Tree) → List Tree
  | [] => []
  | [c] => [c.2]
  | c :: d :: cs => c.2 :: chain (extendHistory history c.1) (d :: cs)

theorem factor_eq_branches (l : String) (cs : List (String × Tree)) :
    factor l cs = branches (emptyHistory l) cs := by
  match cs with
  | [] => rfl
  | [c] => rfl
  | c :: d :: cs => rfl

theorem chain_eq_branches (h : String) {cs : List (String × Tree)} (hcs : cs ≠ []) :
    chain h cs = [node h (branches h cs)] := by
  match cs with
  | [] => exact absurd rfl hcs
  | [c] => rfl
  | c :: d :: cs => rfl

theorem branches_cons (h : String) (c : String × Tree) {cs : List (String × Tree)} (hcs : cs ≠ []) :
    branches h (c :: cs) =
      [c.2, node (extendHistory h c.1) (branches (extendHistory h c.1) cs)] := by
  match cs with
  | [] => exact absurd rfl hcs
  | d :: cs => rw [branches, chain_eq_branches _ hcs]

theorem head?_branches (h : String) (cs : List (String × Tree)) :
    (branches h cs).head? = cs.head?.map Prod.snd := by
  match cs with
  | [] => rfl
  | [c] => rfl
  | c :: d :: cs => rfl

theorem annotateAll_ne_nil (mark : String) {cs : List Tree} (hcs : cs ≠ []) :
    annotateAll mark cs ≠ [] := by
  rw [annotateAll_eq]
  simpa using hcs

theorem annotateUnder_node (mark l : String) (cs : List Tree) :
    annotateUnder mark (node l cs) = node (withParent l mark)
      (branches (emptyHistory (withParent l mark))
        (annotateAll (parentMark (withParent l mark)) cs)) := by
  rw [annotateUnder, factor_eq_branches]

theorem annotate_node (l : String) (cs : List Tree) :
    (node l cs).annotate = node l (branches (emptyHistory l) (annotateAll (parentMark l) cs)) := by
  rw [annotate, factor_eq_branches]

/-! ### Annotated trees are consistent -/

/-- Below a node after a history, annotated children go on consistently. -/
theorem isConsistent_branches {l k h : String} (hl : IsOriginal l) (hk : IsPosition l k h)
    {ts : List Tree} (hbare : ∀ t ∈ ts, t.HasBareLabels)
    (hts : ∀ t ∈ ts, (annotateUnder (parentMark l) t).IsConsistent) :
    (node k (branches h (annotateAll (parentMark l) ts))).IsConsistent := by
  induction ts generalizing k h with
  | nil => simp [annotateAll, branches, isConsistent_node, production?]
  | cons t ts ih =>
    rw [List.forall_mem_cons] at hbare hts
    rw [annotateAll]
    -- The last child stands alone; every other one has an intermediate node beside it.
    by_cases hmore : ts = []
    · subst hmore
      rw [annotateAll, branches, isConsistent_node, List.forall_mem_singleton]
      refine ⟨?_, hts.1⟩
      intro q hq
      cases t with
      | leaf w =>
        obtain rfl := Option.some.inj hq
        exact .tag hl hk
      | node c ds =>
        obtain rfl := Option.some.inj hq
        exact .unary hl hk ((hasBareLabels_node c ds).mp hbare.1).1
    · rw [branches_cons h _ (annotateAll_ne_nil _ hmore), isConsistent_node, List.forall_mem_cons,
        List.forall_mem_singleton]
      refine ⟨?_, hts.1, ih (.inner (hk.isHistoryOf.extend _)) hbare.2 hts.2⟩
      intro q hq
      cases t with
      | leaf w => exact absurd hq (by simp [annotateUnder, production?])
      | node c ds =>
        obtain rfl := Option.some.inj hq
        exact .binary hl hk ((hasBareLabels_node c ds).mp hbare.1).1

theorem isConsistent_annotateUnder {m : String} (hm : IsBare m) {t : Tree} (ht : t.HasBareLabels) :
    (annotateUnder m t).IsConsistent := by
  induction t using Tree.induction generalizing m with
  | leaf w => simp [annotateUnder, IsConsistent]
  | node l cs ih =>
    obtain ⟨hl, hcs⟩ := (hasBareLabels_node l cs).mp ht
    have horiginal : IsOriginal (withParent l m) := .below hl hm
    rw [annotateUnder_node]
    exact isConsistent_branches horiginal .top hcs fun c hc =>
      ih c hc horiginal.isBare_parentMark (hcs c hc)

/-- The annotated form of a tree with bare labels is consistent. -/
theorem isConsistent_annotate {t : Tree} (ht : t.HasBareLabels) : t.annotate.IsConsistent := by
  cases t with
  | leaf w => simp [annotate, IsConsistent]
  | node l cs =>
    obtain ⟨hl, hcs⟩ := (hasBareLabels_node l cs).mp ht
    have horiginal : IsOriginal l := .root hl
    rw [annotate_node]
    exact isConsistent_branches horiginal .top hcs fun c hc =>
      isConsistent_annotateUnder horiginal.isBare_parentMark (hcs c hc)

/-! ### Consistent trees are annotated -/

/-- The children of a node of a consistent tree come from the children of a node, after a history. -/
theorem exists_branches {t : Tree} (hall : ∀ u ∈ t.nodes, u.production?.isSome) (hcons : t.IsConsistent)
    {l k h : String} (hl : IsOriginal l) (hk : IsPosition l k h) {cs : List Tree} (ht : t = node k cs) :
    ∃ ts, ts ≠ [] ∧ (∀ t ∈ ts, t.HasBareLabels) ∧
      cs = branches h (annotateAll (parentMark l) ts) := by
  induction t using Tree.induction generalizing l k h cs with
  | leaf w => exact absurd ht (by simp)
  | node k' cs' ih =>
    obtain ⟨rfl, rfl⟩ := Tree.node.inj ht
    rw [nodes_node, List.forall_mem_cons, List.forall_mem_flatMap] at hall
    rw [isConsistent_node] at hcons
    have hmark := hl.isBare_parentMark
    -- A child with the label of its parent is the annotated form of a tree.
    have hchild : ∀ c ds, node (withParent c (parentMark l)) ds ∈ cs' → IsBare c →
        ∃ t : Tree, t.HasBareLabels ∧ siblingLabel (parentMark l) t = withParent c (parentMark l) ∧
          annotateUnder (parentMark l) t = node (withParent c (parentMark l)) ds := by
      intro c ds hmem hc
      obtain ⟨ts, -, hbare, hds⟩ := ih _ hmem (hall.2 _ hmem) (hcons.2 _ hmem) (.below hc hmark) .top rfl
      refine ⟨node c ts, (hasBareLabels_node c ts).mpr ⟨hc, hbare⟩, rfl, ?_⟩
      rw [annotateUnder_node, ← hds]
    obtain ⟨q, hq⟩ := Option.isSome_iff_exists.mp hall.1
    have hannotated := hcons.1 q hq
    rcases production?_eq_some hq with ⟨w, rfl, rfl⟩ | ⟨m, ds, rfl, rfl⟩ | ⟨m, ds, n, es, rfl, rfl⟩
    · refine ⟨[leaf w], by simp, by simp, ?_⟩
      simp [annotateAll, annotateUnder, branches]
    · cases hannotated with
      | @unary l' _ h' c hl' hk' hc =>
        obtain ⟨rfl, rfl⟩ := hk.unique hl hl' hk'
        obtain ⟨t, hbare, -, htree⟩ := hchild c ds (by simp) hc
        refine ⟨[t], by simp, by simpa using hbare, ?_⟩
        simp [annotateAll, branches, htree]
    · cases hannotated with
      | @binary l' _ h' c hl' hk' hc =>
        obtain ⟨rfl, rfl⟩ := hk.unique hl hl' hk'
        obtain ⟨t, hbare, hsibling, htree⟩ := hchild c ds (by simp) hc
        have hrest : node (extendHistory h (withParent c (parentMark l))) es ∈
          [node (withParent c (parentMark l)) ds,
            node (extendHistory h (withParent c (parentMark l))) es] := by simp
        obtain ⟨ts, hne, hbares, hes⟩ := ih _ hrest (hall.2 _ hrest) (hcons.2 _ hrest) hl
          (.inner (hk.isHistoryOf.extend _)) rfl
        refine ⟨t :: ts, by simp, List.forall_mem_cons.mpr ⟨hbare, hbares⟩, ?_⟩
        rw [annotateAll, branches_cons _ _ (annotateAll_ne_nil _ hne), hsibling, htree, ← hes]

/-- A consistent tree with a bare label at its root is the annotated form of a tree with bare labels. -/
theorem exists_annotate {t : Tree} (hall : ∀ u ∈ t.nodes, u.production?.isSome) (hcons : t.IsConsistent)
    {l : String} (hl : IsBare l) (hroot : t.label? = some l) :
    ∃ s : Tree, s.HasBareLabels ∧ s.annotate = t := by
  obtain ⟨cs, rfl⟩ := exists_of_label? hroot
  obtain ⟨ts, -, hbare, hcs⟩ := exists_branches hall hcons (.root hl) .top rfl
  refine ⟨node l ts, (hasBareLabels_node l ts).mpr ⟨hl, hbare⟩, ?_⟩
  rw [annotate_node, ← hcs]

theorem unannotate_annotate_of_hasBareLabels {t : Tree} (ht : t.HasBareLabels) :
    t.annotate.unannotate = t := by
  rw [unannotate_annotate_eq_iff]
  constructor
  · intro l hl
    obtain ⟨cs, rfl⟩ := exists_of_label? hl
    exact cut_eq_self ((hasBareLabels_node l cs).mp ht).1.isRestorable
  · intro c hc u hu l hl
    cases t with
    | leaf w => exact absurd hc (by simp [children])
    | node m cs => exact (((hasBareLabels_node m cs).mp ht).2 c hc u hu l hl).isRestorable

/-- Annotating again what is left of a consistent tree brings the tree back. -/
theorem annotate_unannotate {t : Tree} (hall : ∀ u ∈ t.nodes, u.production?.isSome)
    (hcons : t.IsConsistent) {l : String} (hl : IsBare l) (hroot : t.label? = some l) :
    t.unannotate.annotate = t := by
  obtain ⟨s, hs, rfl⟩ := exists_annotate hall hcons hl hroot
  rw [unannotate_annotate_of_hasBareLabels hs]

end Tree

end Constituency
