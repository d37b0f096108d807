import Constituency.Grammar.Induction
import Constituency.Proofs.OrderedMap
import Constituency.Proofs.Tree.Traversal
import Constituency.Proofs.Vocabulary
import Mathlib.Data.List.Count
import Mathlib.Data.List.Induction

/-!
# Counting productions

Counting the nodes of trees succeeds if and only if each of them has a production (`ofTrees_eq_ok_iff`).
In the end each rule has been counted as often as its production occurs, and each symbol as often as it is
the parent of a rule (`counted_foldl`): the numbers of labels never change, so what was counted under them
earlier is still counted under them.
-/
namespace Constituency

/-- What is counted at a node: its label and the labels of its children. -/
inductive Production where
  /-- A node over a word. -/
  | tag (label : String)
  | unary (label child : String)
  | binary (label left right : String)
  deriving DecidableEq

namespace Production

/-- The labels of a production, the parent first. -/
def labels : Production → List String
  | tag l => [l]
  | unary l m => [l, m]
  | binary l m n => [l, m, n]

variable (v : Vocabulary)

/-- The symbol of a label. -/
def symbol? (l : String) : Option Symbol := (v.find? l).map Int.ofNat

/-- The symbols of a production with one child. -/
def unaryKey? : Production → Option (Symbol × Symbol)
  | unary l m => (symbol? v l).bind fun a => (symbol? v m).map fun b => (a, b)
  | _ => none

/-- The symbols of a production with two children. -/
def binaryKey? : Production → Option (Symbol × Symbol × Symbol)
  | binary l m n =>
      (symbol? v l).bind fun a => (symbol? v m).bind fun b => (symbol? v n).map fun c => (a, b, c)
  | _ => none

/-- The symbol of the parent of a rule. -/
def parent? : Production → Option Symbol
  | tag _ => none
  | unary l _ => symbol? v l
  | binary l _ _ => symbol? v l

end Production

/-- The production at a node, if it can be counted. -/
def Tree.production? : Tree → Option Production
  | .node l [.leaf _] => some (.tag l)
  | .node l [.node m _] => some (.unary l m)
  | .node l [.node m _, .node n _] => some (.binary l m n)
  | _ => none

/-- The children of a node with a production. -/
theorem Tree.production?_eq_some {l : String} {cs : List Tree} {q : Production}
    (h : (Tree.node l cs).production? = some q) :
    (∃ w, cs = [.leaf w] ∧ q = .tag l) ∨ (∃ m ds, cs = [.node m ds] ∧ q = .unary l m) ∨
      ∃ m ds n es, cs = [.node m ds, .node n es] ∧ q = .binary l m n := by
  unfold Tree.production? at h
  split at h
  · rename_i heq
    obtain ⟨rfl, rfl⟩ := Tree.node.inj heq
    exact Or.inl ⟨_, rfl, (Option.some.inj h).symm⟩
  · rename_i heq
    obtain ⟨rfl, rfl⟩ := Tree.node.inj heq
    exact Or.inr (Or.inl ⟨_, _, rfl, (Option.some.inj h).symm⟩)
  · rename_i heq
    obtain ⟨rfl, rfl⟩ := Tree.node.inj heq
    exact Or.inr (Or.inr ⟨_, _, _, _, rfl, (Option.some.inj h).symm⟩)
  · exact absurd h (by simp)

namespace Productions

/-- Count a production. -/
def count (p : Productions) : Production → Productions
  | .tag l => p.countTag l
  | .unary l m => p.countUnary l m
  | .binary l m n => p.countBinary l m n

theorem countNode_of_production? (p : Productions) {t : Tree} {q : Production}
    (h : t.production? = some q) : p.countNode t = .ok (p.count q) := by
  unfold Tree.production? at h
  split at h
  · obtain rfl := Option.some.inj h
    rfl
  · obtain rfl := Option.some.inj h
    rfl
  · obtain rfl := Option.some.inj h
    rfl
  · exact absurd h (by simp)

/-- A node without a production is refused. -/
theorem countNode_of_production?_eq_none (p : Productions) {l : String} {cs : List Tree}
    (h : (Tree.node l cs).production? = none) : ∃ e, p.countNode (.node l cs) = .error e := by
  unfold countNode
  split
  · rename_i heq
    exact absurd (heq ▸ h) (by simp [Tree.production?])
  · rename_i heq
    exact absurd (heq ▸ h) (by simp [Tree.production?])
  · rename_i heq
    exact absurd (heq ▸ h) (by simp [Tree.production?])
  · split_ifs
    · exact ⟨_, rfl⟩
    · exact ⟨_, rfl⟩
  · rename_i heq
    exact absurd heq (by simp)

theorem isNode_of_mem_nodes {t u : Tree} (h : u ∈ t.nodes) : ∃ l cs, u = .node l cs := by
  induction t using Tree.induction with
  | leaf w => simp at h
  | node l cs ih =>
    rw [Tree.nodes_node, List.mem_cons, List.mem_flatMap] at h
    rcases h with rfl | ⟨c, hc, hu⟩
    · exact ⟨l, cs, rfl⟩
    · exact ih c hc hu

/-- Every word of a tree with productions is the only child of a node. -/
theorem exists_tag_of_mem_leaves {t : Tree} (hnode : t.isLeaf = false)
    (hall : ∀ u ∈ t.nodes, u.production?.isSome) {w : Word} (hw : w ∈ t.leaves) :
    ∃ l, Tree.node l [.leaf w] ∈ t.nodes := by
  induction t using Tree.induction with
  | leaf v => exact absurd hnode (by simp [Tree.isLeaf])
  | node l cs ih =>
    rw [Tree.nodes_node, List.forall_mem_cons, List.forall_mem_flatMap] at hall
    rw [Tree.leaves_node, List.mem_flatMap] at hw
    obtain ⟨c, hc, hwc⟩ := hw
    cases c with
    | leaf v =>
      obtain rfl : w = v := by simpa using hwc
      obtain ⟨q, hq⟩ := Option.isSome_iff_exists.mp hall.1
      rcases Tree.production?_eq_some hq with ⟨v, rfl, -⟩ | ⟨m, ds, rfl, -⟩ | ⟨m, ds, n, es, rfl, -⟩
      · obtain rfl : w = v := by simpa using hc
        exact ⟨l, by simp⟩
      · exact absurd hc (by simp)
      · exact absurd hc (by simp)
    | node m ds =>
      obtain ⟨k, hk⟩ := ih _ hc rfl (hall.2 _ hc) hwc
      rw [Tree.nodes_node]
      exact ⟨k, List.mem_cons_of_mem _ (List.mem_flatMap.mpr ⟨_, hc, hk⟩)⟩

/-- The productions at the nodes of trees. -/
def productionsOf (ts : List Tree) : List Production :=
  (ts.flatMap Tree.nodes).filterMap Tree.production?

theorem foldlM_countNode {us : List Tree} (hnode : ∀ u ∈ us, ∃ l cs, u = .node l cs)
    (p p' : Productions) :
    us.foldlM countNode p = .ok p' ↔
      (∀ u ∈ us, u.production?.isSome) ∧ p' = (us.filterMap Tree.production?).foldl count p := by
  induction us generalizing p with
  | nil =>
    simp only [List.foldlM_nil, pure, Except.pure, Except.ok.injEq, List.not_mem_nil,
      IsEmpty.forall_iff, implies_true, true_and, List.filterMap_nil, List.foldl_nil]
    exact eq_comm
  | cons u us ih =>
    rw [List.forall_mem_cons] at hnode
    rw [List.foldlM_cons]
    cases hq : u.production? with
    | none =>
      obtain ⟨l, cs, rfl⟩ := hnode.1
      obtain ⟨e, he⟩ := countNode_of_production?_eq_none p hq
      simp [he, hq, bind, Except.bind]
    | some q =>
      rw [countNode_of_production? p hq]
      have hrest := ih hnode.2 (p.count q)
      simpa [bind, Except.bind, hq] using hrest

/-- Trees are counted if and only if each of their nodes has a production. -/
theorem ofTrees_eq_ok_iff (v : Vocabulary) (ts : List Tree) (p : Productions) :
    ofTrees v ts = .ok p ↔
      (∀ t ∈ ts, ∀ u ∈ t.nodes, u.production?.isSome) ∧
        p = (productionsOf ts).foldl count (start v) := by
  have hnode : ∀ u ∈ ts.flatMap Tree.nodes, ∃ l cs, u = .node l cs := by
    intro u hu
    obtain ⟨t, -, hut⟩ := List.mem_flatMap.mp hu
    exact isNode_of_mem_nodes hut
  rw [ofTrees, foldlM_countNode hnode, List.forall_mem_flatMap]
  rfl

/-! ### The counts -/

/-- What has been counted after some productions: every rule and every parent of one as often as it
occurs among them. -/
structure Counted (v : Vocabulary) (qs : List Production) (p : Productions) : Prop where
  grows : v.Grows p.vocabulary
  nodup : v.labels.toList.Nodup → p.vocabulary.labels.toList.Nodup
  size_le : p.vocabulary.size ≤ v.size + 3 * qs.length
  knows : ∀ q ∈ qs, ∀ l ∈ q.labels, p.vocabulary.Knows l
  unary : ∀ k, p.unary.count k = qs.countP fun q => q.unaryKey? p.vocabulary = some k
  binary : ∀ k, p.binary.count k = qs.countP fun q => q.binaryKey? p.vocabulary = some k
  parents : ∀ x, p.parents.count x = qs.countP fun q => q.parent? p.vocabulary = some x
  isCounted_unary : p.unary.IsCounted
  isCounted_binary : p.binary.IsCounted

section Growing

variable {v w : Vocabulary} (h : v.Grows w) {q : Production} (hq : ∀ l ∈ q.labels, v.Knows l)

include h hq

theorem unaryKey?_of_grows : q.unaryKey? w = q.unaryKey? v := by
  cases q with
  | tag l => rfl
  | unary l m =>
    have hl := h.find?_eq (hq l (by simp [Production.labels]))
    have hm := h.find?_eq (hq m (by simp [Production.labels]))
    simp only [Production.unaryKey?, Production.symbol?, hl, hm]
  | binary l m n => rfl

theorem binaryKey?_of_grows : q.binaryKey? w = q.binaryKey? v := by
  cases q with
  | tag l => rfl
  | unary l m => rfl
  | binary l m n =>
    have hl := h.find?_eq (hq l (by simp [Production.labels]))
    have hm := h.find?_eq (hq m (by simp [Production.labels]))
    have hn := h.find?_eq (hq n (by simp [Production.labels]))
    simp only [Production.binaryKey?, Production.symbol?, hl, hm, hn]

theorem parent?_of_grows : q.parent? w = q.parent? v := by
  cases q with
  | tag l => rfl
  | unary l m =>
    have hl := h.find?_eq (hq l (by simp [Production.labels]))
    simp only [Production.parent?, Production.symbol?, hl]
  | binary l m n =>
    have hl := h.find?_eq (hq l (by simp [Production.labels]))
    simp only [Production.parent?, Production.symbol?, hl]

end Growing

section Step

variable (p : Productions)

/-- The labels of a unary production have numbers after it has been counted. -/
theorem symbol?_countUnary (l m : String) :
    Production.symbol? (p.countUnary l m).vocabulary l =
      some (Int.ofNat (p.vocabulary.indexOf l).1) ∧
    Production.symbol? (p.countUnary l m).vocabulary m =
      some (Int.ofNat ((p.vocabulary.indexOf l).2.indexOf m).1) := by
  have hl := (Vocabulary.grows_indexOf (p.vocabulary.indexOf l).2 m).find?_eq
    (Vocabulary.knows_indexOf p.vocabulary l)
  rw [Vocabulary.find?_indexOf] at hl
  have hm := Vocabulary.find?_indexOf (p.vocabulary.indexOf l).2 m
  exact ⟨congrArg (Option.map Int.ofNat) hl, congrArg (Option.map Int.ofNat) hm⟩

theorem symbol?_countBinary (l m n : String) :
    Production.symbol? (p.countBinary l m n).vocabulary l =
      some (Int.ofNat (p.vocabulary.indexOf l).1) ∧
    Production.symbol? (p.countBinary l m n).vocabulary m =
      some (Int.ofNat ((p.vocabulary.indexOf l).2.indexOf m).1) ∧
    Production.symbol? (p.countBinary l m n).vocabulary n =
      some (Int.ofNat (((p.vocabulary.indexOf l).2.indexOf m).2.indexOf n).1) := by
  obtain ⟨hl, hm⟩ := symbol?_countUnary p l m
  have hgrows := Vocabulary.grows_indexOf (p.countUnary l m).vocabulary n
  have hstay : ∀ k a, Production.symbol? (p.countUnary l m).vocabulary k = some a →
      Production.symbol? (p.countBinary l m n).vocabulary k = some a := by
    intro k a hk
    obtain ⟨i, hi, rfl⟩ := Option.map_eq_some_iff.mp hk
    exact congrArg (Option.map Int.ofNat) ((hgrows.find?_eq (Vocabulary.knows_of_find? hi)).trans hi)
  exact ⟨hstay l _ hl, hstay m _ hm,
    congrArg (Option.map Int.ofNat) (Vocabulary.find?_indexOf _ n)⟩

theorem grows_count (q : Production) : p.vocabulary.Grows (p.count q).vocabulary := by
  cases q with
  | tag l => exact Vocabulary.grows_indexOf _ l
  | unary l m => exact (Vocabulary.grows_indexOf _ l).trans (Vocabulary.grows_indexOf _ m)
  | binary l m n =>
    exact ((Vocabulary.grows_indexOf _ l).trans (Vocabulary.grows_indexOf _ m)).trans
      (Vocabulary.grows_indexOf _ n)

theorem nodup_count (h : p.vocabulary.labels.toList.Nodup) (q : Production) :
    (p.count q).vocabulary.labels.toList.Nodup := by
  cases q with
  | tag l => exact Vocabulary.nodup_indexOf h l
  | unary l m => exact Vocabulary.nodup_indexOf (Vocabulary.nodup_indexOf h l) m
  | binary l m n =>
    exact Vocabulary.nodup_indexOf (Vocabulary.nodup_indexOf (Vocabulary.nodup_indexOf h l) m) n

/-- A production has three labels at most. -/
theorem size_count_le (q : Production) : (p.count q).vocabulary.size ≤ p.vocabulary.size + 3 := by
  cases q with
  | tag l =>
    have hl := Vocabulary.size_indexOf_le p.vocabulary l
    exact hl.trans (by omega)
  | unary l m =>
    have hl := Vocabulary.size_indexOf_le p.vocabulary l
    have hm := Vocabulary.size_indexOf_le (p.vocabulary.indexOf l).2 m
    exact hm.trans (by omega)
  | binary l m n =>
    have hl := Vocabulary.size_indexOf_le p.vocabulary l
    have hm := Vocabulary.size_indexOf_le (p.vocabulary.indexOf l).2 m
    have hn := Vocabulary.size_indexOf_le ((p.vocabulary.indexOf l).2.indexOf m).2 n
    exact hn.trans (by omega)

theorem knows_of_symbol? {v : Vocabulary} {l : String} {a : Symbol}
    (h : Production.symbol? v l = some a) : v.Knows l := by
  obtain ⟨i, hi, -⟩ := Option.map_eq_some_iff.mp h
  exact Vocabulary.knows_of_find? hi

theorem knows_count (q : Production) : ∀ l ∈ q.labels, (p.count q).vocabulary.Knows l := by
  cases q with
  | tag l =>
    intro k hk
    obtain rfl := List.mem_singleton.mp hk
    exact Vocabulary.knows_indexOf p.vocabulary k
  | unary l m =>
    obtain ⟨hl, hm⟩ := symbol?_countUnary p l m
    simpa [Production.labels] using ⟨knows_of_symbol? hl, knows_of_symbol? hm⟩
  | binary l m n =>
    obtain ⟨hl, hm, hn⟩ := symbol?_countBinary p l m n
    simpa [Production.labels] using
      ⟨knows_of_symbol? hl, knows_of_symbol? hm, knows_of_symbol? hn⟩

theorem unary_count (q : Production) : (p.count q).unary =
    p.unary.bump? (q.unaryKey? (p.count q).vocabulary) := by
  cases q with
  | tag l => rfl
  | unary l m =>
    obtain ⟨hl, hm⟩ := symbol?_countUnary p l m
    rw [Production.unaryKey?, count, hl, hm]
    rfl
  | binary l m n => rfl

theorem binary_count (q : Production) : (p.count q).binary =
    p.binary.bump? (q.binaryKey? (p.count q).vocabulary) := by
  cases q with
  | tag l => rfl
  | unary l m => rfl
  | binary l m n =>
    obtain ⟨hl, hm, hn⟩ := symbol?_countBinary p l m n
    rw [Production.binaryKey?, count, hl, hm, hn]
    rfl

theorem parents_count (q : Production) : (p.count q).parents =
    p.parents.bump? (q.parent? (p.count q).vocabulary) := by
  cases q with
  | tag l => rfl
  | unary l m =>
    obtain ⟨hl, -⟩ := symbol?_countUnary p l m
    rw [Production.parent?, count, hl]
    rfl
  | binary l m n =>
    obtain ⟨hl, -⟩ := symbol?_countBinary p l m n
    rw [Production.parent?, count, hl]
    rfl

end Step

variable {v : Vocabulary} {qs : List Production} {p : Productions}

theorem counted_start (v : Vocabulary) : Counted v [] (start v) where
  grows := Vocabulary.Grows.refl v
  nodup h := h
  size_le := Nat.le_add_right _ _
  knows := by simp
  unary k := by simp [start]
  binary k := by simp [start]
  parents x := by simp [start]
  isCounted_unary := OrderedMap.isCounted_empty
  isCounted_binary := OrderedMap.isCounted_empty

/-- Counting one production more. -/
theorem Counted.count (h : Counted v qs p) (q : Production) :
    Counted v (qs ++ [q]) (p.count q) := by
  have hgrows := grows_count p q
  refine ⟨h.grows.trans hgrows, fun hv => nodup_count p (h.nodup hv) q, ?_, ?_, fun k => ?_,
    fun k => ?_, fun x => ?_, ?_, ?_⟩
  · have hold := h.size_le
    have hnew := size_count_le p q
    rw [List.length_append, List.length_singleton]
    omega
  · intro r hr l hl
    rcases List.mem_append.mp hr with hr | hr
    · exact hgrows.knows (h.knows r hr l hl)
    · rw [List.mem_singleton] at hr
      subst hr
      exact knows_count p r l hl
  · have hold : qs.countP (fun r => r.unaryKey? (p.count q).vocabulary = some k) =
        qs.countP fun r => r.unaryKey? p.vocabulary = some k :=
      List.countP_congr fun r hr => by rw [unaryKey?_of_grows hgrows (h.knows r hr)]
    rw [unary_count, Tally.count_bump?, List.countP_append, hold, h.unary, List.countP_singleton]
    simp only [decide_eq_true_eq]
  · have hold : qs.countP (fun r => r.binaryKey? (p.count q).vocabulary = some k) =
        qs.countP fun r => r.binaryKey? p.vocabulary = some k :=
      List.countP_congr fun r hr => by rw [binaryKey?_of_grows hgrows (h.knows r hr)]
    rw [binary_count, Tally.count_bump?, List.countP_append, hold, h.binary, List.countP_singleton]
    simp only [decide_eq_true_eq]
  · have hold : qs.countP (fun r => r.parent? (p.count q).vocabulary = some x) =
        qs.countP fun r => r.parent? p.vocabulary = some x :=
      List.countP_congr fun r hr => by rw [parent?_of_grows hgrows (h.knows r hr)]
    rw [parents_count, Tally.count_bump?, List.countP_append, hold, h.parents, List.countP_singleton]
    simp only [decide_eq_true_eq]
  · rw [unary_count]
    exact h.isCounted_unary.bump? _
  · rw [binary_count]
    exact h.isCounted_binary.bump? _

/-- Every production is counted, in whatever order they come. -/
theorem counted_foldl (v : Vocabulary) (qs : List Production) :
    Counted v qs (qs.foldl Productions.count (start v)) := by
  induction qs using List.reverseRecOn with
  | nil => exact counted_start v
  | append_singleton qs q ih =>
    rw [List.foldl_append]
    exact ih.count q

end Productions

end Constituency
