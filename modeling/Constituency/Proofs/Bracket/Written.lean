import Constituency.Bracket.Printer
import Constituency.Proofs.Bracket.Reader
import Constituency.Proofs.Tree.Traversal

/-!
# Written trees

Both printers write the children of a node behind its label, each child behind a gap of spaces and line
feeds; they differ only in these gaps. `Written` is this common form of a sequence of trees
(`isTextOf_flat`, `isTextOf_pretty`). Inside an open node such a text is read as the trees themselves,
with their words as they were escaped (`Written.readOnto_append`), provided that labels and words are
tokens and that no word follows an opening bracket without a label (`IsWritable`).
-/
namespace Constituency

namespace Tree

/-- A tree that bracket notation can hold. -/
structure IsWritable (t : Tree) : Prop where
  /-- Every label is free of blanks and brackets. -/
  label : ∀ l cs, node l cs ∈ t.nodes → ∀ c ∈ l.toList, Bracket.isPlain c = true
  /-- A leaf behind an empty label would be read as the label. -/
  first : ∀ cs, node "" cs ∈ t.nodes → ∀ c ∈ cs.head?, c.isLeaf = false
  /-- There are no gaps among the leaves, and no leaf is empty or has blanks. -/
  word : ∀ w ∈ t.leaves, ∃ s, w = some s ∧ Bracket.IsWord s

@[simp] theorem isWritable_leaf {w : Word} :
    (leaf w).IsWritable ↔ ∃ s, w = some s ∧ Bracket.IsWord s :=
  ⟨fun h => h.word w (by simp), fun h => ⟨by simp, by simp, by simpa using h⟩⟩

@[simp] theorem isWritable_node {l : String} {cs : List Tree} :
    (node l cs).IsWritable ↔ (∀ c ∈ l.toList, Bracket.isPlain c = true) ∧
      (l = "" → ∀ c ∈ cs.head?, c.isLeaf = false) ∧ ∀ c ∈ cs, c.IsWritable := by
  constructor
  · intro h
    refine ⟨h.label l cs (by simp), ?_, fun c hc => ⟨?_, ?_, ?_⟩⟩
    · rintro rfl
      exact h.first cs (by simp)
    · exact fun m ds hm => h.label m ds (mem_nodes_of_mem_children hc hm)
    · exact fun ds hm => h.first ds (mem_nodes_of_mem_children hc hm)
    · exact fun w hw => h.word w (mem_leaves_of_mem_children hc hw)
  · rintro ⟨hlabel, hfirst, hcs⟩
    refine ⟨?_, ?_, ?_⟩
    · intro m ds hm
      rcases mem_nodes_node.mp hm with hroot | ⟨c, hc, hm⟩
      · obtain ⟨rfl, rfl⟩ := Tree.node.inj hroot
        exact hlabel
      · exact (hcs c hc).label m ds hm
    · intro ds hm
      rcases mem_nodes_node.mp hm with hroot | ⟨c, hc, hm⟩
      · obtain ⟨rfl, rfl⟩ := Tree.node.inj hroot
        exact hfirst rfl
      · exact (hcs c hc).first ds hm
    · intro w hw
      rw [leaves_node, List.mem_flatMap] at hw
      obtain ⟨c, hc, hw⟩ := hw
      exact (hcs c hc).word w hw

/-- Whether the words of a tree come back from bracket notation. -/
def HasRecoverableWords (t : Tree) : Prop := ∀ w ∈ t.leaves, ∀ s ∈ w, Bracket.IsRecoverable s

theorem HasRecoverableWords.word {t : Tree} (h : t.HasRecoverableWords) {s : String}
    (hs : some s ∈ t.leaves) : Bracket.IsRecoverable s := h _ hs s rfl

instance (t : Tree) : Decidable t.HasRecoverableWords :=
  inferInstanceAs (Decidable (∀ w ∈ t.leaves, ∀ s ∈ w, Bracket.IsRecoverable s))

mutual

/-- Whether bracket notation can hold a tree, by recursion on the tree. -/
instance decidableIsWritable : (t : Tree) → Decidable t.IsWritable
  | leaf none => isFalse (by simp)
  | leaf (some w) => decidable_of_iff (Bracket.IsWord w) (by simp)
  | node l cs =>
      have := decidableIsWritableAll cs
      decidable_of_iff _ isWritable_node.symm

/-- Whether bracket notation can hold each tree of a list. -/
instance decidableIsWritableAll : (cs : List Tree) → Decidable (∀ c ∈ cs, c.IsWritable)
  | [] => isTrue (List.forall_mem_nil _)
  | c :: cs =>
      have := decidableIsWritable c
      have := decidableIsWritableAll cs
      decidable_of_iff _ List.forall_mem_cons.symm

end

@[simp] theorem mapWords_leaf (f : String → String) (w : Word) : (leaf w).mapWords f = leaf (w.map f) := by
  rw [mapWords]

theorem mapWordsAll_eq (f : String → String) (cs : List Tree) : mapWordsAll f cs = cs.map (mapWords f) := by
  induction cs with
  | nil => rfl
  | cons c cs ih => rw [mapWordsAll, ih, List.map_cons]

@[simp] theorem mapWords_node (f : String → String) (l : String) (cs : List Tree) :
    (node l cs).mapWords f = node l (cs.map (mapWords f)) := by
  rw [mapWords, mapWordsAll_eq]

theorem leaves_mapWords (f : String → String) (t : Tree) :
    (t.mapWords f).leaves = t.leaves.map (Option.map f) := by
  induction t using Tree.induction with
  | leaf w => simp
  | node l cs ih =>
    rw [mapWords_node, leaves_node, leaves_node, List.flatMap_map, List.map_flatMap]
    exact List.flatMap_congr ih

theorem isLeaf_mapWords (f : String → String) (t : Tree) : (t.mapWords f).isLeaf = t.isLeaf := by
  cases t <;> rfl

/-- Bracket notation can hold a tree whose words are changed to words that it can hold. -/
theorem IsWritable.mapWords {f : String → String} {t : Tree} (h : t.IsWritable)
    (hf : ∀ w, some w ∈ t.leaves → Bracket.IsWord (f w)) : (t.mapWords f).IsWritable := by
  induction t using Tree.induction with
  | leaf w =>
    obtain ⟨s, rfl, -⟩ := isWritable_leaf.mp h
    simpa using hf s (by simp)
  | node l cs ih =>
    obtain ⟨hlabel, hfirst, hcs⟩ := isWritable_node.mp h
    rw [mapWords_node, isWritable_node]
    refine ⟨hlabel, fun hempty => ?_, ?_⟩
    · simpa [List.head?_map, isLeaf_mapWords] using hfirst hempty
    · rw [List.forall_mem_map]
      exact fun c hc => ih c hc (hcs c hc) fun w hw => hf w (mem_leaves_of_mem_children hc hw)

/-- A change of words that changes none of them. -/
theorem mapWords_eq_self {f : String → String} {t : Tree} (h : ∀ w, some w ∈ t.leaves → f w = w) :
    t.mapWords f = t := by
  induction t using Tree.induction with
  | leaf w =>
    cases w with
    | none => rfl
    | some s => simp [h s (by simp)]
  | node l cs ih =>
    rw [mapWords_node]
    congr 1
    refine (List.map_congr_left fun c hc => ih c hc fun w hw => h w ?_).trans (List.map_id' cs)
    exact mem_leaves_of_mem_children hc hw

theorem mapWords_mapWords (f g : String → String) (t : Tree) :
    (t.mapWords f).mapWords g = t.mapWords (g ∘ f) := by
  induction t using Tree.induction with
  | leaf w => simp
  | node l cs ih => simpa using ih

/-- A change of words that a second one takes back. -/
theorem mapWords_mapWords_eq_self {f g : String → String} {t : Tree}
    (h : ∀ w, some w ∈ t.leaves → g (f w) = w) : (t.mapWords f).mapWords g = t := by
  rw [mapWords_mapWords]
  exact mapWords_eq_self h

end Tree

namespace Bracket

/-- What stands between trees that were written. -/
def IsGap (cs : List Char) : Prop := ∀ c ∈ cs, c = ' ' ∨ c = '\n'

theorem IsGap.isBlank {gap : List Char} (h : IsGap gap) : ∀ c ∈ gap, Text.isBlank c = true := by
  intro c hc
  rcases h c hc with rfl | rfl <;> decide

theorem isGap_append {gap gap' : List Char} (h : IsGap gap) (h' : IsGap gap') : IsGap (gap ++ gap') :=
  List.forall_mem_append.mpr ⟨h, h'⟩

/-- A text that holds trees one after the other, each behind a gap, and ends with a gap. A word needs the
gap in front of it. -/
inductive Written : List Tree → List Char → Prop where
  | nil {gap : List Char} (hgap : IsGap gap) : Written [] gap
  | leaf {gap body : List Char} {w : Word} {ts : List Tree} (hgap : IsGap gap) (hne : gap ≠ [])
      (hbody : Written ts body) : Written (.leaf w :: ts) (gap ++ (escapeWord w ++ body))
  | node {gap inner body : List Char} {l : String} {cs ts : List Tree} (hgap : IsGap gap)
      (hinner : Written cs inner) (hbody : Written ts body) :
      Written (.node l cs :: ts) (gap ++ ('(' :: (l.toList ++ (inner ++ ')' :: body))))

/-- A longer gap may stand in front. -/
theorem Written.gap_append {gap text : List Char} {ts : List Tree} (hgap : IsGap gap)
    (h : Written ts text) : Written ts (gap ++ text) := by
  cases h with
  | nil hgap' => exact .nil (isGap_append hgap hgap')
  | leaf hgap' hne hbody =>
    rw [← List.append_assoc]
    exact .leaf (isGap_append hgap hgap') (by simp [hne]) hbody
  | node hgap' hinner hbody =>
    rw [← List.append_assoc]
    exact .node (isGap_append hgap hgap') hinner hbody

/-! ### Printed trees -/

/-- A text that stands for a tree wherever trees are written. -/
def IsTextOf (t : Tree) (text : List Char) : Prop :=
  ∀ ⦃gap body : List Char⦄ ⦃ts : List Tree⦄, IsGap gap → (t.isLeaf = true → gap ≠ []) →
    Written ts body → Written (t :: ts) (gap ++ (text ++ body))

/-- A node needs no gap in front of it. -/
theorem IsTextOf.written {t : Tree} {text body : List Char} {ts : List Tree} (h : IsTextOf t text)
    (hnode : t.isLeaf = false) (hbody : Written ts body) : Written (t :: ts) (text ++ body) :=
  h (List.forall_mem_nil _) (by simp [hnode]) hbody

theorem isTextOf_leaf (w : Word) : IsTextOf (.leaf w) (escapeWord w) :=
  fun _ _ _ hgap hne hbody => .leaf hgap (hne rfl) hbody

theorem isTextOf_node (l : String) {cs : List Tree} {inner : List Char} (h : Written cs inner) :
    IsTextOf (.node l cs) ('(' :: l.toList ++ inner ++ [')']) := by
  intro gap body ts hgap _ hbody
  simpa using Written.node hgap h hbody

theorem isTextOf_flat (t : Tree) : IsTextOf t t.flat := by
  induction t using Tree.induction with
  | leaf w =>
    rw [Tree.flat]
    exact isTextOf_leaf w
  | node l cs ih =>
    have hspace : IsGap [' '] := by simp [IsGap]
    have hinner : Written cs (' ' :: Tree.flatAll cs) := by
      induction cs with
      | nil =>
        rw [Tree.flatAll]
        exact .nil hspace
      | cons c cs ihcs =>
        rw [List.forall_mem_cons] at ih
        cases cs with
        | nil =>
          rw [Tree.flatAll, ← List.append_nil c.flat]
          exact ih.1 hspace (by simp) (.nil (by simp [IsGap]))
        | cons d cs =>
          rw [Tree.flatAll]
          exact ih.1 hspace (by simp) (ihcs ih.2)
    rw [Tree.flat]
    exact isTextOf_node l hinner

theorem isTextOf_pretty (margin indent : Int) (t : Tree) : IsTextOf t (t.pretty margin indent) := by
  induction t using Tree.induction generalizing indent with
  | leaf w =>
    rw [Tree.pretty]
    exact isTextOf_leaf w
  | node l cs ih =>
    have hinner (indent : Int) : Written cs (Tree.prettyAll margin indent cs) := by
      induction cs with
      | nil =>
        rw [Tree.prettyAll]
        exact .nil (by simp [IsGap])
      | cons c cs ihcs =>
        rw [List.forall_mem_cons] at ih
        have hgap : IsGap ('\n' :: List.replicate indent.toNat ' ') := by simp +contextual [IsGap]
        rw [Tree.prettyAll, List.append_assoc]
        exact ih.1 indent hgap (by simp) (ihcs ih.2)
    simp only [Tree.pretty]
    split
    · exact isTextOf_flat (.node l cs)
    · exact isTextOf_node l (hinner _)

/-- In a format for whole trees, the text of a tree goes in front of other written trees. -/
theorem exists_writeAs {t : Tree} {format : String} (hnode : t.isLeaf = false)
    (hformat : format = "bracket" ∨ format = "pprint") :
    ∃ text, t.writeAs format = .ok text ∧
      ∀ ⦃ts : List Tree⦄ ⦃body : List Char⦄, Written ts body → Written (t :: ts) (text.toList ++ body) := by
  rcases hformat with rfl | rfl
  · refine ⟨_, rfl, fun ts body hbody => ?_⟩
    have hend : IsGap ['\n'] := by simp [IsGap]
    simpa [Tree.flatText_eq] using (isTextOf_flat t).written hnode (hbody.gap_append hend)
  · refine ⟨_, rfl, fun ts body hbody => ?_⟩
    have hend : IsGap ['\n', '\n'] := by simp [IsGap]
    simpa [Tree.prettyText_eq] using (isTextOf_pretty 70 0 t).written hnode (hbody.gap_append hend)

/-! ### Reading what was written -/

/-- Nothing that is written has a carriage return. -/
theorem Written.return_not_mem {ts : List Tree} {text : List Char} (h : Written ts text)
    (hts : ∀ t ∈ ts, t.IsWritable) : '\r' ∉ text := by
  have hplain {cs : List Char} (hcs : ∀ c ∈ cs, isPlain c = true) : '\r' ∉ cs := fun hc =>
    absurd (hcs _ hc) (by decide)
  have hgap_return {gap : List Char} (hgap : IsGap gap) : '\r' ∉ gap := fun hc =>
    absurd (hgap _ hc) (by decide)
  induction h with
  | nil hgap => exact hgap_return hgap
  | leaf hgap hne hbody ih =>
    rw [List.forall_mem_cons] at hts
    obtain ⟨w, rfl, hw⟩ := Tree.isWritable_leaf.mp hts.1
    simp [hgap_return hgap, ih hts.2, escapeWord, hplain (isPlain_of_mem_escape hw.no_blank)]
  | node hgap hinner hbody ihinner ihbody =>
    rw [List.forall_mem_cons] at hts
    obtain ⟨hlabel, -, hcs⟩ := Tree.isWritable_node.mp hts.1
    simp [hgap_return hgap, hplain hlabel, ihinner hcs, ihbody hts.2]

/-- Behind an open node no word goes on into what was written. -/
theorem Written.isBoundary {ts : List Tree} {text rest : List Char} (h : Written ts text)
    (hrest : IsBoundary rest) : IsBoundary (text ++ rest) := by
  have hgap_append : ∀ {gap cs : List Char}, IsGap gap → IsBoundary cs → IsBoundary (gap ++ cs) := by
    intro gap cs hgap hcs
    cases gap with
    | nil => exact hcs
    | cons c gap => exact isBoundary_cons.mpr (isPlain_eq_false_of_isBlank (hgap.isBlank c (by simp)))
  cases h with
  | nil hgap => exact hgap_append hgap hrest
  | @leaf gap body w ts hgap hne hbody =>
    obtain ⟨c, gap, rfl⟩ := List.exists_cons_of_ne_nil hne
    exact isBoundary_cons.mpr (isPlain_eq_false_of_isBlank (hgap.isBlank c (by simp)))
  | node hgap hinner hbody =>
    rw [List.append_assoc]
    exact hgap_append hgap (isBoundary_cons.mpr (by decide))

/-- No word follows the gap in front of a node, or of the end. -/
theorem Written.isBoundary_dropBlanks {ts : List Tree} {text rest : List Char} (h : Written ts text)
    (hfirst : ∀ t ∈ ts.head?, t.isLeaf = false) (hrest : IsBoundary (Text.dropBlanks rest)) :
    IsBoundary (Text.dropBlanks (text ++ rest)) := by
  cases h with
  | nil hgap => rwa [Text.dropBlanks, List.dropWhile_append_of_pos hgap.isBlank]
  | leaf hgap hne hbody => simp [Tree.isLeaf] at hfirst
  | node hgap hinner hbody =>
    rw [List.append_assoc, Text.dropBlanks, List.dropWhile_append_of_pos hgap.isBlank, List.cons_append,
      List.dropWhile_cons_of_neg (by decide)]
    exact isBoundary_cons.mpr (by decide)

/-- A node is complete behind its closing bracket, if what is written inside of it is read as its
children. -/
theorem readOnto_node {stack : List Frame} {done : Option Tree} {l : String} {cs : List Tree}
    {inner : List Char} (hstack : (stack.isEmpty && done.isSome) = false)
    (hwritable : (Tree.node l cs).IsWritable) (hinner : Written cs inner)
    (hread : ∀ (f : Frame) (fs : List Frame) (rest : List Char), IsBoundary rest →
      readOnto (f :: fs) done (inner ++ rest) =
        readOnto (⟨f.label, (cs.map (·.mapWords escapedWord)).reverse ++ f.children⟩ :: fs) done rest)
    (rest : List Char) :
    readOnto stack done ('(' :: (l.toList ++ (inner ++ ')' :: rest))) =
      readOnto (attach ((Tree.node l cs).mapWords escapedWord) stack done).1
        (attach ((Tree.node l cs).mapWords escapedWord) stack done).2 rest := by
  obtain ⟨hlabel, hfirst, -⟩ := Tree.isWritable_node.mp hwritable
  have hclose : IsBoundary (')' :: rest) := isBoundary_cons.mpr (by decide)
  have hempty : l.toList = [] → IsBoundary (Text.dropBlanks (inner ++ ')' :: rest)) := fun h =>
    hinner.isBoundary_dropBlanks (hfirst (String.toList_inj.mp h)) hclose
  rw [readOnto_label stack done hstack hlabel (hinner.isBoundary hclose) hempty,
    hread ⟨l.toList, []⟩ stack _ hclose, readOnto_closing]
  simp

/-- Inside an open node, what was written is read as children of the node. -/
theorem Written.readOnto_append {ts : List Tree} {text : List Char} (h : Written ts text)
    (hts : ∀ t ∈ ts, t.IsWritable) (f : Frame) (fs : List Frame) (done : Option Tree)
    {rest : List Char} (hrest : IsBoundary rest) :
    readOnto (f :: fs) done (text ++ rest) =
      readOnto (⟨f.label, (ts.map (·.mapWords escapedWord)).reverse ++ f.children⟩ :: fs) done rest := by
  induction h generalizing f fs rest with
  | nil hgap => rw [readOnto_gap _ _ hgap.isBlank]; simp
  | @leaf gap body w ts hgap hne hbody ih =>
    rw [List.forall_mem_cons] at hts
    obtain ⟨s, rfl, hs⟩ := Tree.isWritable_leaf.mp hts.1
    obtain ⟨c, word, hescape, hc, hword⟩ := hs.exists_escape
    rw [List.append_assoc, readOnto_gap _ _ hgap.isBlank, List.append_assoc, escapeWord, hescape,
      readOnto_word _ _ _ hc hword (hbody.isBoundary hrest), ih hts.2 _ _ hrest]
    simp [escapedWord, hescape]
  | @node gap inner body l cs ts hgap hinner hbody ihinner ihbody =>
    rw [List.forall_mem_cons] at hts
    have hcs := (Tree.isWritable_node.mp hts.1).2.2
    have happend : gap ++ ('(' :: (l.toList ++ (inner ++ ')' :: body))) ++ rest =
        gap ++ ('(' :: (l.toList ++ (inner ++ ')' :: (body ++ rest)))) := by simp
    rw [happend, readOnto_gap _ _ hgap.isBlank,
      readOnto_node (by simp) hts.1 hinner (fun f fs rest hrest => ihinner hcs f fs hrest),
      attach, ihbody hts.2 _ _ hrest]
    simp

/-- A node that was written is read back, with its words as they were escaped. -/
theorem Written.read_node {l : String} {cs : List Tree} {inner : List Char} (hinner : Written cs inner)
    (hwritable : (Tree.node l cs).IsWritable) :
    read ('(' :: (l.toList ++ (inner ++ [')']))) = .ok ((Tree.node l cs).mapWords escapedWord) := by
  have hcs := (Tree.isWritable_node.mp hwritable).2.2
  rw [read_eq_ok_iff,
    readOnto_node rfl hwritable hinner (fun f fs rest hrest => hinner.readOnto_append hcs f fs none hrest),
    attach, readOnto_nil]

end Bracket

end Constituency
