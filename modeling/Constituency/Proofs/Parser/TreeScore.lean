import Constituency.Proofs.Parser.Training

/-!
# Trees of a parser

A parser licenses a node that is a rule of its grammar, or a word under a tag for which its lexicon has a
score. The trees of derivations are those all of whose nodes are licensed (`licenses_of_mem_nodes`,
`exists_derivation`). Every rule stands once in an induced grammar, so the score of a derivation can be
read off its tree: it is the sum of what the parser says of the nodes (`treeScore_tree`).
-/
namespace Constituency

/-- What tells one element of a list from all others finds it. -/
theorem find?_eq_some_of_inj {α β : Type} [DecidableEq β] {f : α → β} {xs : List α} {x : α}
    (hx : x ∈ xs) (hinj : ∀ y ∈ xs, f y = f x → y = x) :
    (xs.find? fun y => f y = f x) = some x := by
  obtain ⟨y, hy⟩ : ∃ y, (xs.find? fun y => f y = f x) = some y :=
    Option.isSome_iff_exists.mp (List.find?_isSome.mpr ⟨x, hx, by simp⟩)
  have hsame : f y = f x := by simpa using List.find?_some hy
  rw [hy, hinj y (List.mem_of_find?_eq_some hy) hsame]

section Rules

variable {σ : Type} [Score σ]

/-- The score of the rule with a production of one child. -/
def Grammar.unaryScore (g : Grammar σ) (l m : String) : σ :=
  ((g.unary.find? fun r => r.production g = .unary l m).map (·.score)).getD Score.bottom

/-- The score of the rule with a production of two children. -/
def Grammar.binaryScore (g : Grammar σ) (l m n : String) : σ :=
  ((g.binary.find? fun r => r.production g = .binary l m n).map (·.score)).getD Score.bottom

variable {score : Nat → Nat → σ} {qs : List Production} {g : Grammar σ} (h : IsInduced score qs g)

include h

theorem IsInduced.unaryScore_eq {r : UnaryRule σ} (hr : r ∈ g.unary) :
    g.unaryScore (g.label r.parent) (g.label r.child) = r.score := by
  have hfind := find?_eq_some_of_inj hr fun s hs heq => h.unary_inj hs hr heq
  rw [Grammar.unaryScore]
  exact congrArg (fun x => (x.map (·.score)).getD Score.bottom) hfind

theorem IsInduced.binaryScore_eq {r : BinaryRule σ} (hr : r ∈ g.binary) :
    g.binaryScore (g.label r.parent) (g.label r.left) (g.label r.right) = r.score := by
  have hfind := find?_eq_some_of_inj hr fun s hs heq => h.binary_inj hs hr heq
  rw [Grammar.binaryScore]
  exact congrArg (fun x => (x.map (·.score)).getD Score.bottom) hfind

end Rules

namespace Parser

variable {σ ρ : Type} [Score σ] [Probability ρ] [LogScale σ ρ]

/-- What a parser says of a node: the score of its rule, or the one of its word under its tag. -/
def nodeScore (p : Parser σ) : Tree → σ
  | .node l [.leaf w] => (p.lexicon.score? w l).getD Score.bottom
  | .node l [.node m _] => p.grammar.unaryScore l m
  | .node l [.node m _, .node n _] => p.grammar.binaryScore l m n
  | _ => Score.bottom

/-- The sum of the scores of all nodes. -/
def treeScore (p : Parser σ) (t : Tree) : σ :=
  t.nodes.foldr (fun u s => Score.add (p.nodeScore u) s) Score.zero

section Sums

variable [LawfulScore σ] (p : Parser σ)

theorem foldr_nodeScore_append (us vs : List Tree) :
    (us ++ vs).foldr (fun u s => Score.add (p.nodeScore u) s) Score.zero =
      Score.add (us.foldr (fun u s => Score.add (p.nodeScore u) s) Score.zero)
        (vs.foldr (fun u s => Score.add (p.nodeScore u) s) Score.zero) := by
  induction us with
  | nil => rw [List.nil_append, List.foldr_nil, OrderedScore.zero_add]
  | cons u us ih => rw [List.cons_append, List.foldr_cons, List.foldr_cons, ih, LawfulScore.add_assoc]

theorem treeScore_word (l : String) (w : Word) :
    p.treeScore (.node l [.leaf w]) = p.nodeScore (.node l [.leaf w]) := by
  simp [treeScore, Score.add_eq, Score.zero_eq]

omit [LawfulScore σ] in
theorem treeScore_unary (l : String) (t : Tree) :
    p.treeScore (.node l [t]) = Score.add (p.nodeScore (.node l [t])) (p.treeScore t) := by
  rw [treeScore, Tree.nodes_node, List.foldr_cons, List.flatMap_singleton, treeScore]

theorem treeScore_binary (l : String) (t u : Tree) :
    p.treeScore (.node l [t, u]) =
      Score.add (Score.add (p.nodeScore (.node l [t, u])) (p.treeScore t)) (p.treeScore u) := by
  rw [treeScore, Tree.nodes_node, List.foldr_cons, List.flatMap_cons, List.flatMap_singleton,
    foldr_nodeScore_append, LawfulScore.add_assoc]
  rfl

end Sums

/-- A node that is a rule of the grammar, or a word under a tag that has a score. -/
inductive Licenses (p : Parser σ) : Tree → Prop
  | word (w tag : String) (s : σ) (hs : p.scores w tag = some s) (hfinite : Score.isFinite s = true) :
      Licenses p (.node tag [.ofWord w])
  | unary (r : UnaryRule σ) (hr : r ∈ p.grammar.unary) (cs : List Tree) :
      Licenses p (.node (p.grammar.label r.parent) [.node (p.grammar.label r.child) cs])
  | binary (r : BinaryRule σ) (hr : r ∈ p.grammar.binary) (cs ds : List Tree) :
      Licenses p (.node (p.grammar.label r.parent)
        [.node (p.grammar.label r.left) cs, .node (p.grammar.label r.right) ds])

/-- The nodes of the tree of a derivation. -/
theorem licenses_of_mem_nodes {p : Parser σ} {sentence : List String} {x : Symbol} {i j : Nat}
    (d : Derivation p.grammar p.scores sentence x i j) : ∀ u ∈ d.tree.nodes, p.Licenses u := by
  induction d with
  | word w tag s hw htag hs hfinite =>
    intro u hu
    obtain rfl : u = .node tag [.ofWord w] := by simpa [Derivation.tree] using hu
    exact .word w tag s hs hfinite
  | unary r hr below ih =>
    obtain ⟨cs, htree⟩ := Tree.exists_of_label? below.label?_tree
    rw [Derivation.tree, Tree.nodes_node, List.forall_mem_cons, List.flatMap_singleton]
    refine ⟨?_, ih⟩
    rw [htree]
    exact .unary r hr cs
  | binary r hr left right ihl ihr =>
    obtain ⟨cs, hleft⟩ := Tree.exists_of_label? left.label?_tree
    obtain ⟨ds, hright⟩ := Tree.exists_of_label? right.label?_tree
    rw [Derivation.tree, Tree.nodes_node, List.forall_mem_cons, List.flatMap_cons,
      List.flatMap_singleton, List.forall_mem_append]
    refine ⟨?_, ihl, ihr⟩
    rw [hleft, hright]
    exact .binary r hr cs ds

namespace IsTrained

variable {settings : Settings} {trees : List Tree} {p : Parser σ} (h : p.IsTrained settings trees)
  {sentence : List String}

include h

/-- A tag over a word that has a score is a label of the grammar. -/
theorem exists_symbol [GroundedScore σ] {w tag : String} {s : σ} (hs : p.scores w tag = some s)
    (hfinite : Score.isFinite s = true) : ∃ x : Nat, p.grammar.vocabulary.labels[x]? = some tag := by
  have hcount := Lexicon.tags_count_ne_zero_of_isFinite GroundedScore.isFinite_bottom hs hfinite
  obtain ⟨x, hx⟩ := Vocabulary.exists_find?
    (h.grammar.knows _ (h.tag_mem hcount) tag (by simp [Production.labels]))
  exact ⟨x, Vocabulary.getElem?_of_find? hx⟩

/-- The symbol of a derivation can be read off its tree. -/
theorem symbol_eq {x y : Symbol} (hy : 0 ≤ y ∧ y < p.grammar.numSymbols) {i j : Nat}
    (d : Derivation p.grammar p.scores sentence x i j) {cs : List Tree}
    (htree : d.tree = .node (p.grammar.label y) cs) : y = x := by
  have hlabel := d.label?_tree
  rw [htree, Tree.label?, Option.some.injEq] at hlabel
  exact label_inj h.grammar.nodup hy (d.symbol_range h.grammar.proper) hlabel

/-- A tree whose nodes are licensed, over words of the sentence, is the tree of a derivation. -/
theorem exists_derivation [GroundedScore σ] {t : Tree} (hnode : t.isLeaf = false)
    (hall : ∀ u ∈ t.nodes, p.Licenses u) {before ws after : List String}
    (hsentence : sentence = before ++ (ws ++ after)) (hleaves : ws.map some = t.leaves) {i j : Nat}
    (hi : i = before.length) (hj : j = i + ws.length) :
    ∃ (x : Symbol) (d : Derivation p.grammar p.scores sentence x i j), d.tree = t := by
  induction t using Tree.induction generalizing before ws after i j with
  | leaf w => exact absurd hnode (by simp [Tree.isLeaf])
  | node l cs ih =>
    rw [Tree.nodes_node, List.forall_mem_cons, List.forall_mem_flatMap] at hall
    rw [Tree.leaves_node] at hleaves
    obtain ⟨hroot, hbelow⟩ := hall
    cases hroot with
    | word w tag s hs hfinite =>
      obtain ⟨x, hx⟩ := h.exists_symbol hs hfinite
      obtain rfl : ws = [w] :=
        List.map_injective_iff.mpr (Option.some_injective _) (hleaves.trans (by simp))
      have hw : sentence[i]? = some w := by simp [hsentence, hi]
      subst hj
      exact ⟨x, .word w l s hw hx hs hfinite, rfl⟩
    | unary r hr cs =>
      rw [List.forall_mem_singleton] at ih hbelow
      rw [List.flatMap_singleton] at hleaves
      obtain ⟨x, d, hd⟩ := ih rfl hbelow hsentence hleaves hi hj
      obtain rfl := h.symbol_eq (h.grammar.proper.unary r hr).2 d hd
      exact ⟨r.parent, .unary r hr d, by rw [Derivation.tree, hd]⟩
    | binary r hr cs ds =>
      obtain ⟨-, hlrange, hrrange⟩ := h.grammar.proper.binary r hr
      rw [List.forall_mem_cons, List.forall_mem_singleton] at ih hbelow
      rw [List.flatMap_cons, List.flatMap_singleton] at hleaves
      -- The words of the left subtree come first; the right one goes on where they end.
      obtain ⟨vs, us, rfl, hvs, hus⟩ := List.map_eq_append_iff.mp hleaves
      rw [List.length_append] at hj
      rw [List.append_assoc] at hsentence
      have hsplit : sentence = (before ++ vs) ++ (us ++ after) := by
        rw [hsentence, List.append_assoc]
      have hk : i + vs.length = (before ++ vs).length := by rw [List.length_append, hi]
      have hj' : j = i + vs.length + us.length := by rw [hj, Nat.add_assoc]
      obtain ⟨x, left, hleft⟩ := ih.1 rfl hbelow.1 hsentence hvs hi rfl
      obtain ⟨y, right, hright⟩ := ih.2 rfl hbelow.2 hsplit hus hk hj'
      obtain rfl := h.symbol_eq hlrange left hleft
      obtain rfl := h.symbol_eq hrrange right hright
      exact ⟨r.parent, .binary r hr left right, by rw [Derivation.tree, hleft, hright]⟩

/-- The score of the tree of a derivation. -/
theorem treeScore_tree [LawfulScore σ] {x : Symbol} {i j : Nat}
    (d : Derivation p.grammar p.scores sentence x i j) : p.treeScore d.tree = d.score := by
  induction d with
  | word w tag s hw htag hs hfinite =>
    rw [Derivation.tree, treeScore_word, nodeScore, Derivation.score]
    exact congrArg (fun x => x.getD Score.bottom) hs
  | unary r hr below ih =>
    obtain ⟨cs, htree⟩ := Tree.exists_of_label? below.label?_tree
    have hrule := h.grammar.unaryScore_eq hr
    rw [Derivation.tree, treeScore_unary, ih, Derivation.score, htree, nodeScore, hrule]
  | binary r hr left right ihl ihr =>
    obtain ⟨cs, hleft⟩ := Tree.exists_of_label? left.label?_tree
    obtain ⟨ds, hright⟩ := Tree.exists_of_label? right.label?_tree
    have hrule := h.grammar.binaryScore_eq hr
    rw [Derivation.tree, treeScore_binary, ihl, ihr, Derivation.score, hleft, hright, nodeScore,
      hrule]

end IsTrained

end Parser

end Constituency
