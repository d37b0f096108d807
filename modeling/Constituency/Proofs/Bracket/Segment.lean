import Constituency.Proofs.Bracket.Lines
import Constituency.Proofs.Bracket.Written
import Constituency.Text.Lines

/-!
# Blocks of written trees

The blocks of a text without carriage returns are those that its characters yield, line feeds among them
(`Yields`, `segment_lines`). What is written inside an open block is taken into it as it stands
(`Written.yields_inside`); at depth zero each node that was written is a block of its own, which is read as
this node (`Written.exists_yields`).
-/
namespace Constituency.Bracket

/-- From an open block to the one behind a text, and the blocks that end in the text. -/
inductive Yields : OpenBlock → List Char → List (List Char) → OpenBlock → Prop where
  | nil (b : OpenBlock) : Yields b [] [] b
  | start {text cs : List Char} {blocks : List (List Char)} {b : OpenBlock}
      (h : Yields ⟨1, ['(']⟩ cs blocks b) : Yields ⟨0, text⟩ ('(' :: cs) blocks b
  | blank {text cs : List Char} {c : Char} {blocks : List (List Char)} {b : OpenBlock}
      (hc : Text.isBlank c = true) (h : Yields .none cs blocks b) : Yields ⟨0, text⟩ (c :: cs) blocks b
  | deeper {d : Nat} {text cs : List Char} {blocks : List (List Char)} {b : OpenBlock}
      (h : Yields ⟨d + 2, '(' :: text⟩ cs blocks b) : Yields ⟨d + 1, text⟩ ('(' :: cs) blocks b
  | finish {text cs : List Char} {blocks : List (List Char)} {b : OpenBlock}
      (h : Yields .none cs blocks b) :
      Yields ⟨1, text⟩ (')' :: cs) ((')' :: text).reverse :: blocks) b
  | shallower {d : Nat} {text cs : List Char} {blocks : List (List Char)} {b : OpenBlock}
      (h : Yields ⟨d + 1, ')' :: text⟩ cs blocks b) : Yields ⟨d + 2, text⟩ (')' :: cs) blocks b
  | inside {d : Nat} {text cs : List Char} {c : Char} {blocks : List (List Char)} {b : OpenBlock}
      (hopen : c ≠ '(') (hclose : c ≠ ')') (h : Yields ⟨d + 1, c :: text⟩ cs blocks b) :
      Yields ⟨d + 1, text⟩ (c :: cs) blocks b

namespace Yields

variable {b b' : OpenBlock} {cs ds : List Char} {blocks : List (List Char)}

/-- The characters yield their blocks in any line. -/
theorem segmentLine_eq (h : Yields b cs blocks b') (line : List Char) :
    segmentLine line b cs = ⟨blocks, .ok b'⟩ := by
  induction h with
  | nil => rw [segmentLine_nil]
  | start _ ih => rw [segmentLine_start, ih]
  | blank hc _ ih => rw [segmentLine_blank _ _ _ hc, ih]
  | deeper _ ih => rw [segmentLine_deeper, ih]
  | finish _ ih => rw [segmentLine_finish, ih, Segmentation.cons]
  | shallower _ ih => rw [segmentLine_shallower, ih]
  | inside hopen hclose _ ih => rw [segmentLine_inside _ _ _ _ hopen hclose, ih]

/-- A text that ends outside of all blocks gives the blocks that it yields, and no error. -/
theorem outcome_eq (h : Yields b cs blocks b') (hb' : b'.depth = 0) : outcome b cs = ⟨blocks, none⟩ := by
  simp [outcome, h.segmentLine_eq, Segmentation.andThen, OpenBlock.atEnd, hb']

theorem append {blocks' : List (List Char)} {b'' : OpenBlock} (h : Yields b cs blocks b')
    (h' : Yields b' ds blocks' b'') : Yields b (cs ++ ds) (blocks ++ blocks') b'' := by
  induction h with
  | nil => exact h'
  | start _ ih => exact (ih h').start
  | blank hc _ ih => exact (ih h').blank hc
  | deeper _ ih => exact (ih h').deeper
  | finish _ ih => exact (ih h').finish
  | shallower _ ih => exact (ih h').shallower
  | inside hopen hclose _ ih => exact (ih h').inside hopen hclose

/-- A gap between blocks is passed over. -/
theorem gap {gap : List Char} (hgap : ∀ c ∈ gap, Text.isBlank c = true) (h : Yields .none cs blocks b) :
    Yields .none (gap ++ cs) blocks b := by
  induction gap with
  | nil => exact h
  | cons c gap ih =>
    rw [List.forall_mem_cons] at hgap
    exact (ih hgap.2).blank hgap.1

/-- Characters other than brackets are taken into an open block. -/
theorem inside_append {d : Nat} {text : List Char} (hcs : ∀ c ∈ cs, c ≠ '(' ∧ c ≠ ')')
    (h : Yields ⟨d + 1, cs.reverse ++ text⟩ ds blocks b) :
    Yields ⟨d + 1, text⟩ (cs ++ ds) blocks b := by
  induction cs generalizing text with
  | nil => exact h
  | cons c cs ih =>
    rw [List.forall_mem_cons] at hcs
    exact inside hcs.1.1 hcs.1.2 (ih hcs.2 (by simpa using h))

end Yields

/-- Without carriage returns, the lines of a text with a line feed behind each of them are the text, and
what stands behind its last line feed. -/
theorem splitLines_spec (line : List Char) {cs : List Char} (hline : '\r' ∉ line ∧ '\n' ∉ line)
    (hcs : '\r' ∉ cs) :
    (Text.splitLines line cs).1.flatMap (· ++ ['\n']) ++ (Text.splitLines line cs).2 =
        line.reverse ++ cs ∧
      ∀ l ∈ (Text.splitLines line cs).1 ++ [(Text.splitLines line cs).2], '\r' ∉ l ∧ '\n' ∉ l := by
  fun_induction Text.splitLines line cs with
  | case1 line => simpa using hline
  | case2 line cs ih => simp at hcs
  | case3 line cs _ ih => simp at hcs
  | case4 line cs ih =>
    obtain ⟨hjoin, hlines⟩ := ih (by simp) (List.not_mem_of_not_mem_cons hcs)
    refine ⟨?_, ?_⟩
    · simpa using hjoin
    · simpa [hline] using hlines
  | case5 line c cs _ hreturn hfeed ih =>
    rw [List.mem_cons, not_or] at hcs
    have hline' : '\r' ∉ c :: line ∧ '\n' ∉ c :: line := by
      refine ⟨?_, ?_⟩
      · simpa [hline.1] using hcs.1
      · simpa [hline.2] using Ne.symm hfeed
    simpa using ih hline' hcs.2

/-- The lines of a text without carriage returns, each with a line feed behind it, are the text with at
most one more line feed. -/
theorem exists_flatMap_lines {s : String} (h : '\r' ∉ s.toList) :
    (∃ ending, IsGap ending ∧ (Text.lines s).flatMap (· ++ ['\n']) = s.toList ++ ending) ∧
      ∀ l ∈ Text.lines s, '\r' ∉ l ∧ '\n' ∉ l := by
  obtain ⟨hjoin, hlines⟩ := splitLines_spec [] (by simp) h
  rw [List.reverse_nil, List.nil_append] at hjoin
  simp only [Text.lines]
  split
  · next hlast =>
    rw [List.isEmpty_iff.mp hlast, List.append_nil] at hjoin
    refine ⟨⟨[], by simp [IsGap], by rw [hjoin, List.append_nil]⟩, fun l hl => hlines l ?_⟩
    exact List.mem_append_left _ hl
  · refine ⟨⟨['\n'], by simp [IsGap], ?_⟩, hlines⟩
    rw [List.flatMap_append, List.flatMap_singleton, ← List.append_assoc, hjoin]

/-- The blocks of a text are those that its characters yield. -/
theorem segment_lines {s : String} {blocks : List (List Char)}
    (h : Yields .none s.toList blocks .none) (hreturn : '\r' ∉ s.toList) :
    segment (Text.lines s) = ⟨blocks, none⟩ := by
  obtain ⟨⟨ending, hending, hjoin⟩, hlines⟩ := exists_flatMap_lines hreturn
  refine Segmentation.eq_of_withoutLine ?_
  rw [segment, withoutLine_segmentFrom_of_lines hlines, hjoin, outcome_append_blanks hending.isBlank,
    h.outcome_eq rfl]

/-! ### Written trees -/

theorem IsGap.ne_bracket {gap : List Char} (h : IsGap gap) : ∀ c ∈ gap, c ≠ '(' ∧ c ≠ ')' :=
  fun c hc => ne_bracket_of_isBlank (h.isBlank c hc)

theorem escapeWord_ne_bracket (w : Word) : ∀ c ∈ escapeWord w, c ≠ '(' ∧ c ≠ ')' := by
  intro c hc
  cases w with
  | none => simp [escapeWord] at hc
  | some w =>
    obtain ⟨hopen, hclose⟩ := bracket_not_mem_escape w.toList
    exact ⟨fun h => hopen (h ▸ hc), fun h => hclose (h ▸ hc)⟩

/-- What is written inside an open block is taken into it. -/
theorem Written.yields_inside {ts : List Tree} {text : List Char} (h : Written ts text)
    (hts : ∀ t ∈ ts, t.IsWritable) {d : Nat} {front rest : List Char} {blocks : List (List Char)}
    {b : OpenBlock} (hrest : Yields ⟨d + 1, text.reverse ++ front⟩ rest blocks b) :
    Yields ⟨d + 1, front⟩ (text ++ rest) blocks b := by
  induction h generalizing d front rest with
  | nil hgap => exact hrest.inside_append hgap.ne_bracket
  | @leaf gap body w ts hgap hne hbody ih =>
    rw [List.forall_mem_cons] at hts
    rw [List.append_assoc, List.append_assoc]
    refine (Yields.inside_append (escapeWord_ne_bracket w) ?_).inside_append hgap.ne_bracket
    exact ih hts.2 (by simpa using hrest)
  | @node gap inner body l cs ts hgap hinner hbody ihinner ihbody =>
    rw [List.forall_mem_cons] at hts
    obtain ⟨hlabel, -, hcs⟩ := Tree.isWritable_node.mp hts.1
    rw [List.append_assoc, List.cons_append, List.append_assoc, List.append_assoc, List.cons_append]
    refine (Yields.deeper ?_).inside_append hgap.ne_bracket
    refine Yields.inside_append (fun c hc => ne_bracket_of_isPlain (hlabel c hc)) ?_
    exact ihinner hcs (Yields.shallower (ihbody hts.2 (by simpa using hrest)))

/-- Trees that were written give a block each, which is read as the tree with escaped words. -/
theorem Written.exists_yields {ts : List Tree} {text : List Char} (h : Written ts text)
    (hnode : ∀ t ∈ ts, t.isLeaf = false) (hts : ∀ t ∈ ts, t.IsWritable) :
    ∃ blocks, Yields .none text blocks .none ∧
      blocks.map read = ts.map fun t => .ok (t.mapWords escapedWord) := by
  induction h with
  | nil hgap =>
    refine ⟨[], ?_, rfl⟩
    simpa using (Yields.nil .none).gap hgap.isBlank
  | leaf => simp [Tree.isLeaf] at hnode
  | @node gap inner body l cs ts hgap hinner hbody ihinner ihbody =>
    rw [List.forall_mem_cons] at hnode hts
    obtain ⟨hlabel, -, hcs⟩ := Tree.isWritable_node.mp hts.1
    obtain ⟨blocks, hyields, hread⟩ := ihbody hnode.2 hts.2
    refine ⟨_ :: blocks, (Yields.start ?_).gap hgap.isBlank, by rw [List.map_cons, List.map_cons, hread,
      hinner.read_node hts.1]⟩
    refine Yields.inside_append (fun c hc => ne_bracket_of_isPlain (hlabel c hc)) ?_
    have hfinish : Yields ⟨1, inner.reverse ++ (l.toList.reverse ++ ['('])⟩ (')' :: body) _ .none :=
      hyields.finish
    exact hinner.yields_inside hcs (by simpa using hfinish)

end Constituency.Bracket
