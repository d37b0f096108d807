import Constituency.Proofs.Parser.Exact

/-!
# Sentences that were trained on

Every rule of a training tree was counted, and so was every word with its tag. So the annotated form of the
tree is that of a derivation (`IsTrained.exists_derivation_of_tree`), and the result for its sentence cannot
be worse. That the closure leaves out rules and chains that come back to a symbol does no harm.
-/
namespace Constituency.Parser

variable {settings : Settings} {trees : List Tree} {p : Parser RealScore}

namespace IsTrained

variable (h : p.IsTrained settings trees) {sentence : List String}

include h

/-- The nodes of the trees that were trained on. -/
theorem licenses_of_annotated {t : Tree} (ht : t ∈ annotated settings trees)
    (hwords : ∀ w ∈ t.leaves, w ≠ none) : ∀ u ∈ t.nodes, p.Licenses u := by
  intro u hu
  obtain ⟨q, hq⟩ := Option.isSome_iff_exists.mp (h.countable t ht u hu)
  have hmem : q ∈ Productions.productionsOf (annotated settings trees) :=
    List.mem_filterMap.mpr ⟨u, List.mem_flatMap.mpr ⟨t, ht, hu⟩, hq⟩
  obtain ⟨l, cs, rfl⟩ := Productions.isNode_of_mem_nodes hu
  rcases Tree.production?_eq_some hq with ⟨w, rfl, rfl⟩ | ⟨m, ds, rfl, rfl⟩ | ⟨m, ds, n, es, rfl, rfl⟩
  · obtain ⟨v, rfl⟩ := Option.ne_none_iff_exists'.mp (hwords w (Tree.mem_leaves_of_mem_nodes hu))
    obtain ⟨s, hs, hfinite⟩ :=
      h.exists_score (List.mem_flatMap.mpr ⟨t, ht, Tree.mem_tagged.mpr hu⟩)
    exact .word v l s hs hfinite
  · obtain ⟨r, hr, hrule⟩ := h.grammar.exists_unary l m hmem
    obtain ⟨rfl, rfl⟩ := Production.unary.inj hrule
    exact .unary r hr ds
  · obtain ⟨r, hr, hrule⟩ := h.grammar.exists_binary l m n hmem
    obtain ⟨rfl, rfl, rfl⟩ := Production.binary.inj hrule
    exact .binary r hr ds es

/-- The words of the trees that were trained on. -/
theorem known_of_mem_leaves {t : Tree} (ht : t ∈ annotated settings trees) (hnode : t.isLeaf = false)
    {w : Word} (hw : w ∈ t.leaves) : p.lexicon.known w = true := by
  obtain ⟨tag, htag⟩ := Productions.exists_tag_of_mem_leaves hnode (h.countable t ht) hw
  exact (h.lexicon.known_iff w).mpr ⟨tag, List.mem_flatMap.mpr ⟨t, ht, Tree.mem_tagged.mpr htag⟩⟩

/-- A tree that was trained on is the tree of a derivation of the root over its sentence. -/
theorem exists_derivation_of_tree {t : Tree} (ht : t ∈ trees) (hshort : isShort settings t = true)
    (hroot : t.label? = some settings.root) (hwords : t.leaves = sentence.map some) :
    ∃ (x : Nat) (d : Derivation p.grammar p.scores sentence x 0 sentence.length),
      p.grammar.vocabulary.find? settings.root = some x ∧ d.tree = t.annotate ∧
      ∀ w ∈ sentence, p.lexicon.known (some w) = true := by
  have hmem : t.annotate ∈ annotated settings trees :=
    List.mem_map.mpr ⟨t, List.mem_filter.mpr ⟨ht, hshort⟩, rfl⟩
  have hleaves : sentence.map some = t.annotate.leaves := by rw [Tree.leaves_annotate, hwords]
  have hlabel : t.annotate.label? = some settings.root := by rw [Tree.label?_annotate, hroot]
  have hnode : t.annotate.isLeaf = false := by
    obtain ⟨cs, hcs⟩ := Tree.exists_of_label? hlabel
    rw [hcs]
    rfl
  have hgaps : ∀ w ∈ t.annotate.leaves, w ≠ none := by simp [← hleaves]
  have hlicensed := h.licenses_of_annotated hmem hgaps
  have hsentence : sentence = [] ++ (sentence ++ []) := by simp
  obtain ⟨x, d, htree⟩ :=
    h.exists_derivation hnode hlicensed hsentence hleaves rfl (Nat.zero_add _).symm
  have hx : p.grammar.label x = settings.root := by
    have hsame := d.label?_tree
    rw [htree, hlabel, Option.some.injEq] at hsame
    exact hsame.symm
  obtain ⟨k, hk, rfl⟩ := Option.map_eq_some_iff.mp
    (symbol?_label h.grammar.nodup (d.symbol_range h.grammar.proper))
  rw [hx] at hk
  refine ⟨k, d, hk, htree, fun w hw => h.known_of_mem_leaves hmem hnode ?_⟩
  rw [← hleaves]
  exact List.mem_map_of_mem hw

end IsTrained

/-- Take scores as exact numbers. The sentence of a tree that was trained on and has the root at its top is
parsed, and the result is at least as probable as the tree itself, which is that of a derivation. -/
theorem treeScore_le_logProbability (settings : Settings) (trees : List Tree) (p : Parser RealScore)
    (hp : train settings trees = .ok p) (t : Tree) (ht : t ∈ trees) (hshort : isShort settings t = true)
    (hroot : t.label? = some settings.root) (sentence : List String)
    (hwords : t.leaves = sentence.map some) :
    ∃ r, p.parse sentence = .ok r ∧ r.failed = false ∧
      (∃ (x : Nat) (d : Derivation p.grammar p.scores sentence x 0 sentence.length),
        p.grammar.vocabulary.find? settings.root = some x ∧ d.tree = t.annotate) ∧
      p.treeScore t.annotate ≠ Score.bottom ∧ p.treeScore t.annotate ≤ r.logProbability := by
  have h := isTrained_of_train hp
  obtain ⟨x, d, hx, htree, hknown⟩ := h.exists_derivation_of_tree ht hshort hroot hwords
  obtain ⟨r, hparse, hok, hne, hle⟩ := h.exists_parse_ge hknown hx d
  have hscore := h.treeScore_tree d
  rw [htree] at hscore
  rw [hscore]
  exact ⟨r, hparse, hok, ⟨x, d, hx, htree⟩, hne, hle⟩

/-- A tree whose annotated form has a rule that leads back to the same label. -/
def nestedTree : Tree := .node "ROOT" [.node "A" [.node "A" [.node "A" [.ofWord "a"]]]]

theorem annotate_nestedTree : nestedTree.annotate =
    .node "ROOT" [.node "A^ROOT" [.node "A^A" [.node "A^A" [.ofWord "a"]]]] := rfl

theorem treeScore_le_logProbability_nestedTree : ∃ (p : Parser RealScore) (r : ParseResult RealScore),
    train Settings.default [nestedTree] = .ok p ∧ isShort Settings.default nestedTree = true ∧
      nestedTree.label? = some Settings.default.root ∧ nestedTree.leaves = ["a"].map some ∧
      p.parse ["a"] = .ok r ∧ r.failed = false ∧
      p.treeScore nestedTree.annotate ≤ r.logProbability := by
  have hwords : nestedTree.leaves = ["a"].map some := rfl
  obtain ⟨p, hp⟩ := exists_train_of_tree (t := nestedTree) rfl
    (by simp [annotate_nestedTree, Tree.production?]) (by simp [annotate_nestedTree])
  obtain ⟨r, hparse, hok, -, -, hle⟩ := treeScore_le_logProbability Settings.default [nestedTree] p hp
    nestedTree (List.mem_singleton.mpr rfl) rfl rfl ["a"] hwords
  exact ⟨p, r, hp, rfl, rfl, hwords, hparse, hok, hle⟩

end Constituency.Parser
