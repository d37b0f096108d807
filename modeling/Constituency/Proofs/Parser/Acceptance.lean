import Constituency.Proofs.Except
import Constituency.Proofs.Grammar.Frequencies
import Constituency.Proofs.Parser.Training
import Constituency.Proofs.Tree.Countable
import Constituency.Proofs.Tree.Markovized

/-!
# Which trees can be trained on

A grammar is read off the annotated forms of trees unless a node of one of the trees has no children, or a
leaf in front of another child (`induce_annotate_iff`). Binarization leaves such a leaf beside an intermediate
node, and this pair of children is refused. A last leaf has a node of its own then, which is a preterminal, so it
is accepted wherever its siblings are. Nothing else can be refused: annotated nodes have two children at most, and
the rules that have been counted have symbols of the vocabulary.
-/
namespace Constituency

variable {σ ρ : Type} [Probability ρ] [LogScale σ ρ]

namespace Productions

/-- A node with one or two children is refused for what these are. -/
theorem countNode_eq_error {p : Productions} {u : Tree} {e : InductionError} (h : p.countNode u = .error e)
    (hnarrow : u.children.length ≤ 2) : e = .mixedChildren u := by
  unfold countNode at h
  split at h
  · exact absurd h (by simp)
  · exact absurd h (by simp)
  · exact absurd h (by simp)
  · rw [if_neg (by simpa [Tree.children] using hnarrow)] at h
    exact (Except.error.inj h).symm
  · exact absurd h (by simp)

/-- Trees without a node that has more than two children are refused for one that has other children than its
production may have. -/
theorem exists_of_ofTrees_eq_error {v : Vocabulary} {ts : List Tree} {e : InductionError}
    (h : ofTrees v ts = .error e) (hnarrow : ∀ t ∈ ts, t.IsNarrow) :
    ∃ t ∈ ts, ∃ u ∈ t.nodes, e = .mixedChildren u := by
  obtain ⟨u, hu, p, hp⟩ := exists_of_foldlM_eq_error h
  obtain ⟨t, ht, hut⟩ := List.mem_flatMap.mp hu
  exact ⟨t, ht, u, hut, countNode_eq_error hp (hnarrow t ht u hut)⟩

end Productions

/-- A grammar is read off trees, or they are refused. -/
theorem exists_induce_eq_error_iff {v : Vocabulary} {ts : List Tree} :
    (∃ e : GrammarError σ, Grammar.induce v ts = .error e) ↔ ¬ ∀ t ∈ ts, t.IsCountable := by
  constructor
  · rintro ⟨e, he⟩ hall
    obtain ⟨g, hg⟩ := exists_induce (σ := σ) hall
    rw [he] at hg
    exact absurd hg (by simp)
  · intro hno
    cases h : (Grammar.induce v ts : Except (GrammarError σ) (Grammar σ)) with
    | error e => exact ⟨e, rfl⟩
    | ok g => exact absurd (induce_eq_ok_iff.mp h).1 hno

/-- What is refused are productions, never the symbols of the rules that have been counted. -/
theorem exists_ofTrees_eq_error {v : Vocabulary} {ts : List Tree} {e : GrammarError σ}
    (h : Grammar.induce v ts = .error e) :
    ∃ e', Productions.ofTrees v ts = .error e' ∧ e = .production e' := by
  unfold Grammar.induce at h
  cases hp : Productions.ofTrees v ts with
  | error e' =>
    rw [hp] at h
    exact ⟨e', rfl, (Except.error.inj h).symm⟩
  | ok p =>
    obtain ⟨-, rfl⟩ := (Productions.ofTrees_eq_ok_iff v ts p).mp hp
    obtain ⟨g, hg⟩ := Productions.exists_grammar? (Productions.counted_foldl v (Productions.productionsOf ts))
      (logShare : Nat → Nat → σ)
    simp [hp, hg, Except.mapError] at h

/-- Trees over words have annotated forms, and a grammar is read off these unless a node of a tree has no children,
or a leaf that is not its last child. Then a node is refused for its children. Otherwise the rules that have been
counted are accepted, and they have the relative frequencies of the annotated trees. -/
theorem induce_annotate_iff (labels : List String) (ts : List Tree)
    (hwords : ∀ t ∈ ts, ∀ w ∈ t.leaves, w ≠ none) :
    ∃ annotated, ts.mapM Tree.annotate? = some annotated ∧
      ((∃ e : GrammarError σ, Grammar.induce (.ofList labels) annotated = .error e) ↔
        ∃ t ∈ ts, ∃ u ∈ t.nodes, u.children = [] ∨ ∃ c ∈ u.children.dropLast, c.isLeaf = true) ∧
      (∀ e : GrammarError σ, Grammar.induce (.ofList labels) annotated = .error e →
        ∃ t ∈ annotated, ∃ u ∈ t.nodes, e = .production (.mixedChildren u)) ∧
      ∀ p, Productions.ofTrees (.ofList labels) annotated = .ok p →
        ∃ g : Grammar σ, p.grammar? logShare = .ok g ∧ g.IsEstimate annotated := by
  have hannotated : ts.mapM Tree.annotate? = some (ts.map Tree.annotate) := by
    rw [Parser.mapM_annotate?, if_pos fun t ht => Tree.hasHistories_of_leaves t (hwords t ht)]
  refine ⟨ts.map Tree.annotate, hannotated, ?_, fun e he => ?_, fun p hp => ?_⟩
  · rw [exists_induce_eq_error_iff, List.forall_mem_map]
    simp only [Tree.isCountable_annotate_iff, not_forall, Tree.not_hasLeavesLast_iff, exists_prop]
  · obtain ⟨e', he', rfl⟩ := exists_ofTrees_eq_error he
    -- Annotated trees are binarized, so no node has too many children.
    have hnarrow : ∀ t ∈ ts.map Tree.annotate, t.IsNarrow :=
      List.forall_mem_map.mpr fun t _ => Tree.isNarrow_annotatedBelow none t
    obtain ⟨t, ht, u, hu, rfl⟩ := Productions.exists_of_ofTrees_eq_error he' hnarrow
    exact ⟨t, ht, u, hu, rfl⟩
  · obtain ⟨hall, rfl⟩ := (Productions.ofTrees_eq_ok_iff _ _ p).mp hp
    obtain ⟨g, hg⟩ := Productions.exists_grammar?
      (Productions.counted_foldl (.ofList labels) (Productions.productionsOf (ts.map Tree.annotate)))
      (logShare : Nat → Nat → σ)
    have hv : (Vocabulary.ofList labels).labels.toList.Nodup :=
      Vocabulary.nodup_iff_exists_ofList.mpr ⟨labels, rfl⟩
    exact ⟨g, hg, (isEstimate_of_induce hv (induce_eq_ok_iff.mpr ⟨hall, hg⟩)).2⟩

/-- A node over a word and another node: the word can stand behind the node, and not in front of it. -/
def mixedNode (wordFirst : Bool) : Tree :=
  .node "S" (if wordFirst then [.ofWord "a", .node "B" [.ofWord "b"]] else [.node "B" [.ofWord "b"], .ofWord "a"])

theorem induce_annotate_iff_mixedNode :
    (∀ wordFirst, ∀ w ∈ (mixedNode wordFirst).leaves, w ≠ none) ∧
    (∃ annotated, [mixedNode false].mapM Tree.annotate? = some annotated ∧
      ∃ g : Grammar Float, Grammar.induce (.ofList []) annotated = .ok g) ∧
    ∃ annotated, [mixedNode true].mapM Tree.annotate? = some annotated ∧
      ∃ e : GrammarError Float, Grammar.induce (.ofList []) annotated = .error e := by
  have hwords : ∀ wordFirst, ∀ w ∈ (mixedNode wordFirst).leaves, w ≠ none := by decide
  refine ⟨hwords, ?_, ?_⟩
  · obtain ⟨annotated, hannotated, hiff, -, hgrammar⟩ := induce_annotate_iff (σ := Float) [] [mixedNode false]
      (List.forall_mem_singleton.mpr (hwords false))
    refine ⟨annotated, hannotated, ?_⟩
    cases hg : (Grammar.induce (.ofList []) annotated : Except (GrammarError Float) (Grammar Float)) with
    | ok g => exact ⟨g, rfl⟩
    | error e => exact absurd (hiff.mp ⟨e, hg⟩) (by simp [mixedNode, Tree.children, Tree.isLeaf])
  · obtain ⟨annotated, hannotated, hiff, -⟩ := induce_annotate_iff (σ := Float) [] [mixedNode true]
      (List.forall_mem_singleton.mpr (hwords true))
    refine ⟨annotated, hannotated, hiff.mpr ?_⟩
    simp [mixedNode, Tree.children, Tree.isLeaf]

end Constituency
