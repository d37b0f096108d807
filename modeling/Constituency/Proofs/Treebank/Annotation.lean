import Constituency.Proofs.Treebank
import Constituency.Proofs.Tree.Histories

/-!
# Annotated treebanks

A tree that was read from a treebank can be annotated, written and read, and it can be brought back from what
was read, if its labels allow it and no bracket gets into the history of an intermediate node
(`ofText_annotate_of_mem_trees`). Words are escaped at leaves only: in a history a bracket stands as it is,
and then something else is read than was written, or nothing at all (`ofText_annotate_bracketTree`).
-/
namespace Constituency.Treebank

/-- Trees that are read from a text can be written. -/
theorem isWritable_of_ofText {text : String} {a : Tree} (h : ofText ⟨none, false⟩ text = ⟨[a], none⟩) :
    a.IsWritable := by
  have hread : a ∈ (trees ⟨none, false⟩ Text.Encoding.localName [.ok text.toUTF8]).items := by
    rw [trees_toUTF8, h]
    exact List.mem_singleton.mpr rfl
  exact (isWritable_of_mem_trees hread).2.1

/-- Let a tree of a treebank keep the label of its root when it is cut, and let all its other labels be such
that an annotation can be taken back. Then its annotated form still has the tree in it and can be written.
This is read back as it was written if no bracket of a leaf with a sibling behind it stands in front of `^`,
and only then. -/
theorem ofText_annotate_of_mem_trees {encoding format : String}
    {files : List (Except PathError ByteArray)} {t : Tree}
    (hread : t ∈ (trees ⟨none, false⟩ encoding files).items)
    (hroot : ∀ l, t.label? = some l → Label.cut l = l)
    (hlabels : ∀ c ∈ t.children, ∀ u ∈ c.nodes, ∀ l, u.label? = some l → Label.IsRestorable l)
    (hformat : format = "bracket" ∨ format = "pprint") :
    ∃ a text, t.annotate? = some a ∧ a.unannotate = t ∧ a.writeAs format = .ok text ∧
      (ofText ⟨none, false⟩ text = ⟨[a], none⟩ ↔ t.HasPlainFronts) := by
  obtain ⟨hnode, hwritable, hrecoverable⟩ := isWritable_of_mem_trees hread
  have hgaps : ∀ w ∈ t.leaves, w ≠ none := by
    intro w hw
    obtain ⟨s, rfl, -⟩ := hwritable.word w hw
    simp
  have hleaf : t.annotate.isLeaf = false := by
    rw [Tree.isLeaf_annotate, hnode]
  have hwords : t.annotate.HasRecoverableWords := by
    rwa [Tree.HasRecoverableWords, Tree.leaves_annotate]
  obtain ⟨text, htext, -⟩ := Bracket.exists_writeAs hleaf hformat
  refine ⟨t.annotate, text, ?_, (Tree.unannotate_annotate_eq_iff t).mpr ⟨hroot, hlabels⟩, htext, ?_⟩
  · rw [Tree.annotate?, if_pos (Tree.hasHistories_of_leaves t hgaps)]
  · constructor
    · intro hback
      exact Tree.hasPlainFronts_of_annotate (isWritable_of_ofText hback)
    · intro hfronts
      exact ofText_of_writeAs htext hleaf hformat
        (Tree.isWritable_annotate hwritable (hwritable.hasPlainHistories hfronts)) hwords

/-- A tree with words as siblings, of which the first ones have brackets behind `^` only. -/
def caretTree : Tree :=
  .node "S" [.ofWord "a^(", .node "-X" [.ofWord "b", .ofWord "c", .ofWord "(d)"], .ofWord ")"]

theorem hasPlainFronts_caretTree : caretTree.HasPlainFronts := by
  intro l cs hl w hw
  simp only [caretTree, Tree.nodes_node, Tree.nodes_leaf, List.flatMap_cons, List.flatMap_nil,
    List.nil_append, List.append_nil, List.mem_cons, Tree.node.injEq, List.not_mem_nil, or_false] at hl
  rcases hl with ⟨-, rfl⟩ | ⟨-, rfl⟩ <;> simp at hw <;> rcases hw with rfl | rfl <;> decide

theorem ofText_annotate_of_mem_trees_caretTree : ∃ files,
    caretTree ∈ (trees ⟨none, false⟩ Text.Encoding.localName files).items ∧
      (∀ l, caretTree.label? = some l → Label.cut l = l) ∧
      (∀ c ∈ caretTree.children, ∀ u ∈ c.nodes, ∀ l, u.label? = some l → Label.IsRestorable l) ∧
      ∃ a text, caretTree.annotate? = some a ∧ a.unannotate = caretTree ∧ a.writeAs "pprint" = .ok text ∧
        ofText ⟨none, false⟩ text = ⟨[a], none⟩ := by
  have hread := mem_trees_flatText (t := caretTree) rfl (by decide) (by decide)
  have hroot : ∀ l, caretTree.label? = some l → Label.cut l = l := by
    rintro l ⟨rfl⟩
    decide
  have hlabels : ∀ c ∈ caretTree.children, ∀ u ∈ c.nodes, ∀ l, u.label? = some l →
      Label.IsRestorable l := by
    simp [caretTree, Tree.children, Tree.label?, Label.IsRestorable]
  obtain ⟨a, text, hannotate, hback, htext, hiff⟩ :=
    ofText_annotate_of_mem_trees hread hroot hlabels (Or.inr rfl)
  exact ⟨_, hread, hroot, hlabels, a, text, hannotate, hback, htext, hiff.mpr hasPlainFronts_caretTree⟩

/-- A tree in which a bracket has a sibling behind it. -/
def bracketTree : Tree := .node "X" [.ofWord "(", .ofWord "b"]

/-- The bracket gets into the label of the intermediate node, and what was written is not read back. -/
theorem ofText_annotate_bracketTree : ∃ files a text,
    bracketTree ∈ (trees ⟨none, false⟩ Text.Encoding.localName files).items ∧
      (∀ l, bracketTree.label? = some l → Label.cut l = l) ∧
      (∀ c ∈ bracketTree.children, ∀ u ∈ c.nodes, ∀ l, u.label? = some l → Label.IsRestorable l) ∧
      bracketTree.annotate? = some a ∧ a.writeAs "bracket" = .ok text ∧
      text = "(X #LRB# (@X->_( b))\n" ∧
      ofText ⟨none, false⟩ text = ⟨[], some (.segment (.unclosed 1))⟩ := by
  have hread := mem_trees_flatText (t := bracketTree) rfl (by decide) (by decide)
  have hroot : ∀ l, bracketTree.label? = some l → Label.cut l = l := by
    rintro l ⟨rfl⟩
    decide
  have hlabels : ∀ c ∈ bracketTree.children, ∀ u ∈ c.nodes, ∀ l, u.label? = some l →
      Label.IsRestorable l := by
    simp [bracketTree, Tree.children]
  refine ⟨_, .node "X" [.ofWord "(", .node "@X->_(" [.ofWord "b"]], _, hread, hroot, hlabels, ?_, ?_, rfl, ?_⟩
  · decide
  · decide
  · rfl

end Constituency.Treebank
