import Constituency.Proofs.Bracket.Readable
import Constituency.Proofs.Bracket.Segment
import Constituency.Treebank

/-!
# Treebanks that were written

A text is read as a treebank by its lines and their blocks (`ofText`); this is what a file in UTF-8 holds
(`trees_toUTF8`). Trees that are written one after the other are read back in their order
(`ofText_of_written`), whichever format each of them has (`ofText_join_writeAs`).
-/
namespace Constituency.Treebank

/-- The trees of a text. -/
def ofText (o : TreebankOptions) (s : String) : Reading Tree :=
  let blocks := Bracket.segment (Text.lines s)
  Reading.mapM (fun b => (readBlock o b).mapError .tree) ⟨blocks.blocks, blocks.final.map .segment⟩

theorem fromUTF8?_toUTF8 (s : String) : String.fromUTF8? s.toUTF8 = some s := by
  rw [String.fromUTF8?, String.toUTF8_eq_toByteArray, dif_pos s.isValidUTF8]
  rfl

theorem readLines_toUTF8 (s : String) :
    Text.Encoding.utf8.readLines s.toUTF8 = ⟨Text.lines s, none⟩ := by
  have hwhole : s.toUTF8.extract 0 (s.toUTF8.size - 0) = s.toUTF8 := ByteArray.extract_zero_size
  have hexcerpt : Text.Encoding.readUtf8? s.toUTF8 = some ⟨s, some ""⟩ := by
    rw [Text.Encoding.readUtf8?, List.findSome?_cons]
    simp only [hwhole, fromUTF8?_toUTF8]
    rfl
  have hread : Text.Encoding.utf8.read s.toUTF8 = .ok s := by
    rw [Text.Encoding.read, Text.Encoding.excerpt, hexcerpt]
    change Except.ok (s ++ "") = Except.ok s
    rw [String.append_empty]
  rw [Text.Encoding.readLines, hread]

theorem firstError_none (among : Option Bracket.SegmentError) :
    firstError among none = among.map .segment := by
  cases among with
  | none => rfl
  | some e => cases e <;> rfl

/-- A file in the encoding of files holds the trees of its text. -/
theorem trees_toUTF8 (o : TreebankOptions) (s : String) :
    trees o Text.Encoding.localName [.ok s.toUTF8] = ofText o s := by
  have hopen : openFile Text.Encoding.localName (.ok s.toUTF8) = .ok (s.toUTF8, .utf8) := rfl
  have hblocks : blocksOf Text.Encoding.localName (.ok s.toUTF8) =
      ⟨(Bracket.segment (Text.lines s)).blocks, (Bracket.segment (Text.lines s)).final.map .segment⟩ := by
    simp only [blocksOf, hopen, readLines_toUTF8]
    rw [firstError_none]
  rw [trees, ofText, blocks, hblocks]
  cases (Bracket.segment (Text.lines s)).final with
  | none => simp [blocks]
  | some e => rfl

/-- All items are changed if each of them can be. -/
theorem Reading.mapM_eq {α β : Type} {f : α → Except TreebankError β} {as : List α} {bs : List β}
    (h : as.map f = bs.map .ok) (error : Option TreebankError) :
    Reading.mapM f ⟨as, error⟩ = ⟨bs, error⟩ := by
  have hgo (r : Reading α) : Reading.mapM.go f r as = ⟨bs, r.error⟩ := by
    induction as generalizing bs with
    | nil =>
      obtain rfl := List.map_eq_nil_iff.mp h.symm
      rw [Reading.mapM.go]
    | cons a as ih =>
      obtain ⟨b, bs, rfl, hab, hrest⟩ := List.map_eq_cons_iff.mp h.symm
      rw [Reading.mapM.go, ← hab, ih hrest.symm]
  rw [Reading.mapM, hgo]

theorem Reading.exists_of_mem_mapM {α β : Type} {f : α → Except TreebankError β} {r : Reading α} {b : β}
    (h : b ∈ (Reading.mapM f r).items) : ∃ a ∈ r.items, f a = .ok b := by
  have hgo (as : List α) (hb : b ∈ (Reading.mapM.go f r as).items) : ∃ a ∈ as, f a = .ok b := by
    induction as with
    | nil => simp [Reading.mapM.go] at hb
    | cons a as ih =>
      rw [Reading.mapM.go] at hb
      split at hb
      · simp at hb
      · next b' hb' =>
        rcases List.mem_cons.mp hb with rfl | hb
        · exact ⟨a, List.mem_cons_self .., hb'⟩
        · obtain ⟨a', ha', hab⟩ := ih hb
          exact ⟨a', List.mem_cons_of_mem _ ha', hab⟩
  exact hgo r.items h

theorem readBlock_plain (b : List Char) :
    readBlock ⟨none, false⟩ b = (Bracket.read b).map (·.mapWords Bracket.unescapeWord) := rfl

/-- Trees that were written are read back. -/
theorem ofText_of_written {ts : List Tree} {s : String} (h : Bracket.Written ts s.toList)
    (hnode : ∀ t ∈ ts, t.isLeaf = false) (hts : ∀ t ∈ ts, t.IsWritable)
    (hwords : ∀ t ∈ ts, t.HasRecoverableWords) :
    ofText ⟨none, false⟩ s = ⟨ts, none⟩ := by
  obtain ⟨blocks, hyields, hread⟩ := h.exists_yields hnode hts
  rw [ofText, Bracket.segment_lines hyields (h.return_not_mem hts)]
  refine Reading.mapM_eq ?_ none
  let unescaped (r : Except Bracket.ReadError Tree) : Except TreebankError Tree :=
    (r.map (·.mapWords Bracket.unescapeWord)).mapError .tree
  have hback : ∀ t ∈ ts, unescaped (.ok (t.mapWords Bracket.escapedWord)) = .ok t := fun t ht =>
    congrArg Except.ok (Tree.mapWords_mapWords_eq_self fun _ => (hwords t ht).word)
  calc blocks.map (fun b => (readBlock ⟨none, false⟩ b).mapError .tree)
      = (blocks.map Bracket.read).map unescaped := by rw [List.map_map]; rfl
    _ = ts.map fun t => unescaped (.ok (t.mapWords Bracket.escapedWord)) := by rw [hread, List.map_map]; rfl
    _ = ts.map .ok := List.map_congr_left hback

/-- A tree that was written is read back. -/
theorem ofText_of_writeAs {t : Tree} {format text : String} (htext : t.writeAs format = .ok text)
    (hnode : t.isLeaf = false) (hformat : format = "bracket" ∨ format = "pprint") (ht : t.IsWritable)
    (hwords : t.HasRecoverableWords) :
    ofText ⟨none, false⟩ text = ⟨[t], none⟩ := by
  obtain ⟨text', htext', hfront⟩ := Bracket.exists_writeAs hnode hformat
  obtain rfl := Except.ok.inj (htext.symm.trans htext')
  have hwritten := hfront (.nil (List.forall_mem_nil _))
  rw [List.append_nil] at hwritten
  refine ofText_of_written hwritten ?_ ?_ ?_ <;> rwa [List.forall_mem_singleton]

/-- A tree that bracket notation can hold is the tree of a treebank. -/
theorem mem_trees_flatText {t : Tree} (hnode : t.isLeaf = false) (ht : t.IsWritable)
    (hwords : t.HasRecoverableWords) :
    t ∈ (trees ⟨none, false⟩ Text.Encoding.localName [.ok (t.flatText ++ "\n").toUTF8]).items := by
  rw [trees_toUTF8, ofText_of_writeAs rfl hnode (Or.inl rfl) ht hwords]
  exact List.mem_singleton.mpr rfl

/-- Trees of a treebank, whose codes of brackets were replaced, can be written. -/
theorem isWritable_of_mem_trees {encoding : String} {files : List (Except PathError ByteArray)} {t : Tree}
    (h : t ∈ (trees ⟨none, false⟩ encoding files).items) :
    t.isLeaf = false ∧ t.IsWritable ∧ t.HasRecoverableWords := by
  obtain ⟨b, -, hread⟩ := Reading.exists_of_mem_mapM h
  rw [readBlock_plain] at hread
  cases hb : Bracket.read b with
  | error e =>
    rw [hb] at hread
    exact absurd hread (by simp [Except.map, Except.mapError])
  | ok u =>
    rw [hb] at hread
    obtain rfl := Except.ok.inj hread
    obtain ⟨hplain, hnode⟩ := Bracket.isPlainTree_of_read hb
    exact ⟨by rw [Tree.isLeaf_mapWords, hnode], hplain.mapWords_unescapeWord⟩

/-- The texts of trees in formats for whole trees, one behind the other. -/
theorem exists_mapM_writeAs {items : List (Tree × String)} (hnode : ∀ x ∈ items, x.1.isLeaf = false)
    (hformat : ∀ x ∈ items, x.2 = "bracket" ∨ x.2 = "pprint") :
    ∃ texts, items.mapM (fun x => x.1.writeAs x.2) = .ok texts ∧
      Bracket.Written (items.map Prod.fst) (String.join texts).toList := by
  induction items with
  | nil => exact ⟨[], rfl, .nil (List.forall_mem_nil _)⟩
  | cons x items ih =>
    rw [List.forall_mem_cons] at hnode hformat
    obtain ⟨text, htext, hfront⟩ := Bracket.exists_writeAs hnode.1 hformat.1
    obtain ⟨texts, htexts, hwritten⟩ := ih hnode.2 hformat.2
    refine ⟨text :: texts, ?_, ?_⟩
    · rw [List.mapM_cons, htext, htexts]
      rfl
    · rw [List.map_cons, String.join_cons, String.toList_append]
      exact hfront hwritten

/-- Trees that are written one after the other, each in a format for whole trees, are read back. -/
theorem ofText_join_writeAs {items : List (Tree × String)}
    (hnode : ∀ x ∈ items, x.1.isLeaf = false) (hwritable : ∀ x ∈ items, x.1.IsWritable)
    (hwords : ∀ x ∈ items, x.1.HasRecoverableWords)
    (hformat : ∀ x ∈ items, x.2 = "bracket" ∨ x.2 = "pprint") :
    ∃ texts, items.mapM (fun x => x.1.writeAs x.2) = .ok texts ∧
      ofText ⟨none, false⟩ (String.join texts) = ⟨items.map Prod.fst, none⟩ := by
  obtain ⟨texts, htexts, hwritten⟩ := exists_mapM_writeAs hnode hformat
  refine ⟨texts, htexts, ofText_of_written hwritten ?_ ?_ ?_⟩
  · simpa using hnode
  · simpa using hwritable
  · simpa using hwords

/-- Trees with a node without children, a node without a label, brackets in words and a width of more than
seventy columns. -/
def mixedTrees : List (Tree × String) :=
  let phrase : Tree := .node "" [.node "NP" [.ofWord "f(x)", .ofWord ")"], .node "EMPTY" []]
  let clause : Tree := .node "CLAUSE-WITH-A-LONG-LABEL" [phrase, .ofWord "#", phrase]
  [(phrase, "bracket"), (.node "" [], "pprint"), (.node "S" [clause, clause], "pprint")]

theorem ofText_join_writeAs_mixedTrees :
    (∀ x ∈ mixedTrees, x.1.isLeaf = false) ∧ (∀ x ∈ mixedTrees, x.1.IsWritable) ∧
      (∀ x ∈ mixedTrees, x.1.HasRecoverableWords) ∧
      (∀ x ∈ mixedTrees, x.2 = "bracket" ∨ x.2 = "pprint") ∧
      ∃ texts, mixedTrees.mapM (fun x => x.1.writeAs x.2) = .ok texts ∧
        ofText ⟨none, false⟩ (String.join texts) = ⟨mixedTrees.map Prod.fst, none⟩ := by
  have hnode : ∀ x ∈ mixedTrees, x.1.isLeaf = false := by decide
  have hwritable : ∀ x ∈ mixedTrees, x.1.IsWritable := by decide
  have hwords : ∀ x ∈ mixedTrees, x.1.HasRecoverableWords := by decide
  have hformat : ∀ x ∈ mixedTrees, x.2 = "bracket" ∨ x.2 = "pprint" := by decide
  exact ⟨hnode, hwritable, hwords, hformat, ofText_join_writeAs hnode hwritable hwords hformat⟩

end Constituency.Treebank
