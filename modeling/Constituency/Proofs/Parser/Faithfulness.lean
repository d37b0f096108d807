import Constituency.Proofs.Parser.Reproduction
import Constituency.Proofs.Tree.Annotated

/-!
# The derivation behind a result

A parser gives the best derivation without its annotations. With labels that hold no marks of annotations
nothing is lost: every rule that it has learned continues the annotations of its parent
(`IsTrained.isAnnotated`), so that every derivation, also one that combines rules of several trees, is the
annotated form of what it gives (`IsTrained.annotate_unannotate_tree`).
-/
namespace Constituency.Parser

namespace IsTrained

variable {σ ρ : Type} [Score σ] [Probability ρ] [LogScale σ ρ] {settings : Settings} {trees : List Tree}
  {p : Parser σ} (h : p.IsTrained settings trees) {sentence : List String}

omit h in
/-- The productions of the trees that were trained on. -/
theorem isAnnotated (hlabels : ∀ t ∈ trees, t.HasBareLabels) :
    ∀ q ∈ Productions.productionsOf (annotated settings trees), q.IsAnnotated := by
  intro q hq
  obtain ⟨u, hu, hproduction⟩ := List.mem_filterMap.mp hq
  obtain ⟨_, hmem, hut⟩ := List.mem_flatMap.mp hu
  obtain ⟨t, ht, rfl⟩ := List.mem_map.mp hmem
  exact Tree.isConsistent_annotate (hlabels t (List.mem_filter.mp ht).1) u hut q hproduction

include h

variable [GroundedScore σ]

/-- A licensed node has a production that was trained on. -/
theorem exists_production {u : Tree} (hu : p.Licenses u) :
    ∃ q ∈ Productions.productionsOf (annotated settings trees), u.production? = some q := by
  cases hu with
  | word w tag s hs hfinite =>
    have hcount := Lexicon.tags_count_ne_zero_of_isFinite GroundedScore.isFinite_bottom hs hfinite
    exact ⟨_, h.tag_mem hcount, rfl⟩
  | unary r hr cs => exact ⟨_, h.grammar.unary_mem r hr, rfl⟩
  | binary r hr cs ds => exact ⟨_, h.grammar.binary_mem r hr, rfl⟩

/-- A derivation of the root is the annotated form of what is left of it. -/
theorem annotate_unannotate_tree (hlabels : ∀ t ∈ trees, t.HasBareLabels)
    (hroot : Label.IsBare settings.root) {x : Nat}
    (hx : p.grammar.vocabulary.find? settings.root = some x) {i j : Nat}
    (d : Derivation p.grammar p.scores sentence x i j) :
    d.tree.unannotate.annotate = d.tree := by
  have hproduction : ∀ u ∈ d.tree.nodes, ∃ q, u.production? = some q ∧ q.IsAnnotated := by
    intro u hu
    obtain ⟨q, hq, hsome⟩ := h.exists_production (licenses_of_mem_nodes d u hu)
    exact ⟨q, hsome, isAnnotated hlabels q hq⟩
  have hlabel : d.tree.label? = some settings.root := by
    rw [d.label?_tree, Derivation.label_of_getElem? (Vocabulary.getElem?_of_find? hx)]
  refine Tree.annotate_unannotate ?_ ?_ hroot hlabel
  · intro u hu
    obtain ⟨q, hsome, -⟩ := hproduction u hu
    rw [hsome]
    rfl
  · intro u hu q hq
    obtain ⟨q', hsome, hannotated⟩ := hproduction u hu
    obtain rfl := Option.some.inj (hsome.symm.trans hq)
    exact hannotated

end IsTrained

/-- Let all labels be free of marks of annotations. Then annotating the tree of a result gives the derivation
that was rebuilt, of which every node is a rule of the grammar or a word under one of its tags. In exact
numbers, the logarithm of the probability of the result is the sum of their scores. -/
theorem annotate_tree_eq (settings : Settings) (trees : List Tree)
    (hlabels : ∀ t ∈ trees, t.HasBareLabels) (hroot : Label.IsBare settings.root)
    (sentence : List String) :
    (∀ {σ ρ : Type} [Score σ] [Probability ρ] [LogScale σ ρ] [GroundedScore σ] (p : Parser σ)
      (r : ParseResult σ), train settings trees = .ok p → p.parse sentence = .ok r →
      r.failed = false →
      ∃ c x a, p.chart sentence = .ok c ∧ c.rootSymbol? = some x ∧
        c.derive x 0 c.length true = .ok a ∧ r.tree = a.unannotate ∧ r.tree.annotate? = some a ∧
        ∀ u ∈ a.nodes, p.Licenses u) ∧
    ∀ (p : Parser RealScore) (r : ParseResult RealScore), train settings trees = .ok p →
      p.parse sentence = .ok r → r.failed = false → r.logProbability = p.treeScore r.tree.annotate := by
  constructor
  · intro σ ρ _ _ _ _ p r hp hr hok
    have h := isTrained_of_train hp
    obtain ⟨c, x, d, hchart, hx, hsymbol, hderive, htree⟩ := h.exists_derivation_of_parse hr hok
    have hwords : ∀ w ∈ r.tree.leaves, w ≠ none := by
      rw [htree, Tree.leaves_unannotate, d.leaves_tree]
      simp
    have hback : r.tree.annotate = d.tree := by
      rw [htree, h.annotate_unannotate_tree hlabels hroot hx d]
    refine ⟨c, x, d.tree, hchart, hsymbol, hderive, htree, ?_, licenses_of_mem_nodes d⟩
    rw [Tree.annotate?, if_pos (Tree.hasHistories_of_leaves r.tree hwords), hback]
  · intro p r hp hr hok
    have h := isTrained_of_train hp
    obtain ⟨c, x, d, hchart, hx, -, hderive, htree⟩ := h.exists_derivation_of_parse hr hok
    rw [htree, h.annotate_unannotate_tree hlabels hroot hx d]
    exact h.logProbability_eq hr hok hchart hx hderive

/-- A tree with more than two children, so that it has a history of siblings. -/
def flatTree : Tree :=
  .node "ROOT" [.node "A" [.ofWord "a"], .node "-B" [.ofWord "b"], .node "A" [.ofWord "b"]]

theorem annotate_flatTree : flatTree.annotate = .node "ROOT" [.node "A^ROOT" [.ofWord "a"],
    .node "@ROOT->_A" [.node "-B^ROOT" [.ofWord "b"],
      .node "@ROOT->_A_-B" [.node "A^ROOT" [.ofWord "b"]]]] := rfl

theorem isBare_labels : Label.IsBare "ROOT" ∧ Label.IsBare "A" ∧ Label.IsBare "-B" :=
  ⟨⟨by decide, by decide, by decide, by decide, by decide⟩,
    ⟨by decide, by decide, by decide, by decide, by decide⟩,
    ⟨by decide, by decide, by decide, by decide, by decide⟩⟩

theorem hasBareLabels_flatTree : flatTree.HasBareLabels := by
  simp [flatTree, isBare_labels]

theorem annotate_tree_eq_flatTree : ∃ (p : Parser RealScore) (r : ParseResult RealScore),
    flatTree.HasBareLabels ∧ Label.IsBare Settings.default.root ∧
      train Settings.default [flatTree] = .ok p ∧ p.parse ["a", "b", "b"] = .ok r ∧
      r.failed = false ∧ (∃ a, r.tree = a.unannotate ∧ r.tree.annotate? = some a) ∧
      r.logProbability = p.treeScore r.tree.annotate := by
  obtain ⟨p, hp⟩ := exists_train_of_tree (t := flatTree) rfl
    (by simp [annotate_flatTree, Tree.production?]) (by simp [annotate_flatTree])
  have h := isTrained_of_train hp
  have hwords : flatTree.leaves = ["a", "b", "b"].map some := rfl
  obtain ⟨x, d, hx, -, hknown⟩ :=
    h.exists_derivation_of_tree (List.mem_singleton.mpr rfl) rfl rfl hwords
  obtain ⟨r, hr, hok, -⟩ := h.exists_parse_ge hknown hx d
  have hlabels : ∀ t ∈ [flatTree], t.HasBareLabels :=
    List.forall_mem_singleton.mpr hasBareLabels_flatTree
  obtain ⟨hderivation, hsum⟩ :=
    annotate_tree_eq Settings.default [flatTree] hlabels isBare_labels.1 ["a", "b", "b"]
  obtain ⟨-, -, a, -, -, -, htree, hback, -⟩ := hderivation p r hp hr hok
  exact ⟨p, r, hasBareLabels_flatTree, isBare_labels.1, hp, hr, hok, ⟨a, htree, hback⟩,
    hsum p r hp hr hok⟩

end Constituency.Parser
