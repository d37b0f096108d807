import Constituency.Proofs.Bracket.Written
import Mathlib.Data.List.TakeWhile

/-!
# What is read can be written

Reading keeps labels and words free of blanks and brackets, and a word never becomes the first child of a
node without a label: it would have been read as the label (`Frame.Admits`). So a tree that was read is one
that bracket notation can hold (`isPlainTree_of_read`), also when the codes in its words are replaced
(`IsPlainTree.isWritable_mapWords`).
-/
namespace Constituency.Bracket

/-- A node that bracket notation can hold without escaping its words, or a leaf of such a node. -/
structure IsPlainTree (t : Tree) : Prop where
  writable : t.IsWritable
  plain : ∀ w, some w ∈ t.leaves → ∀ c ∈ w.toList, isPlain c = true

theorem isPlainTree_ofWord {c : Char} {word : List Char} (h : ∀ d ∈ c :: word, isPlain d = true) :
    IsPlainTree (.ofWord (String.ofList (c :: word))) where
  writable := by
    refine Tree.isWritable_leaf.mpr ⟨_, rfl, ?_, ?_⟩
    · exact fun hempty => by simpa using congrArg String.toList hempty
    · intro d hd
      rw [String.toList_ofList] at hd
      exact (isPlain_iff.mp (h d hd)).1
  plain := by simpa using h

theorem isPlainTree_node {l : List Char} {cs : List Tree} (hl : ∀ c ∈ l, isPlain c = true)
    (hfirst : l = [] → ∀ c ∈ cs.head?, c.isLeaf = false) (hcs : ∀ c ∈ cs, IsPlainTree c) :
    IsPlainTree (.node (String.ofList l) cs) where
  writable := by
    refine Tree.isWritable_node.mpr ⟨by simpa using hl, fun hempty => hfirst ?_, ?_⟩
    · simpa using congrArg String.toList hempty
    · exact fun c hc => (hcs c hc).writable
  plain := by
    intro w hw
    rw [Tree.leaves_node, List.mem_flatMap] at hw
    obtain ⟨c, hc, hw⟩ := hw
    exact (hcs c hc).plain w hw

/-! ### Open nodes -/

/-- What is known of an open node: its last child, which stands in front, was read last. -/
structure Frame.IsOpen (f : Frame) : Prop where
  label : ∀ c ∈ f.label, isPlain c = true
  children : ∀ t ∈ f.children, IsPlainTree t
  first : f.label = [] → ∀ t ∈ f.children.getLast?, t.isLeaf = false

/-- Behind the opening bracket of a node without a label stands a bracket, if anything. -/
def Frame.Admits (f : Frame) (rest : List Char) : Prop :=
  f.label = [] → f.children = [] → ∀ c ∈ rest.head?, c = '(' ∨ c = ')'

/-- The node of an open node that is closed. -/
theorem Frame.IsOpen.isPlainTree {f : Frame} (h : f.IsOpen) :
    IsPlainTree (.node (String.ofList f.label) f.children.reverse) :=
  isPlainTree_node h.label (by simpa using h.first) (by simpa using h.children)

/-- An open node takes one more child, and no word as its first one if it has no label. -/
theorem Frame.IsOpen.cons {f : Frame} (h : f.IsOpen) {t : Tree} (ht : IsPlainTree t)
    (hfirst : f.label = [] → f.children = [] → t.isLeaf = false) :
    Frame.IsOpen ⟨f.label, t :: f.children⟩ where
  label := h.label
  children := List.forall_mem_cons.mpr ⟨ht, h.children⟩
  first := by
    intro hlabel u hu
    cases hchildren : f.children with
    | nil =>
      simp only [hchildren, List.getLast?_singleton, Option.mem_some_iff] at hu
      exact hu ▸ hfirst hlabel hchildren
    | cons d ds =>
      refine h.first hlabel u ?_
      simpa [hchildren] using hu

/-- A node that has just been opened. -/
theorem Frame.isOpen_opening {label : List Char} (h : ∀ c ∈ label, isPlain c = true) :
    Frame.IsOpen ⟨label, []⟩ where
  label := h
  children := List.forall_mem_nil _
  first := by simp

theorem head?_dropWhile_eq_false {p : Char → Bool} {cs : List Char} {c : Char}
    (h : c ∈ (cs.dropWhile p).head?) : p c = false := by
  have hhead := List.head?_dropWhile_not p cs
  rw [Option.mem_def] at h
  rwa [h] at hhead

/-- The text behind blanks and a label does not begin with a character of the label, nor, if the label is
empty, with a blank. -/
theorem Frame.admits_opening (cs : List Char) :
    Frame.Admits ⟨(Text.dropBlanks cs).takeWhile isPlain, []⟩ ((Text.dropBlanks cs).dropWhile isPlain) := by
  intro hlabel _ c hc
  change (Text.dropBlanks cs).takeWhile isPlain = [] at hlabel
  have hrest : Text.dropBlanks cs = (Text.dropBlanks cs).dropWhile isPlain := by
    have hsplit := List.takeWhile_append_dropWhile (p := isPlain) (l := Text.dropBlanks cs)
    rw [hlabel, List.nil_append] at hsplit
    exact hsplit.symm
  have hplain : isPlain c = false := head?_dropWhile_eq_false hc
  have hblank : Text.isBlank c = false := by
    rw [← hrest] at hc
    exact head?_dropWhile_eq_false hc
  by_contra hbracket
  rw [not_or] at hbracket
  rw [isPlain_iff.mpr ⟨hblank, hbracket⟩] at hplain
  exact absurd hplain (by decide)

/-- A node with a child admits anything. -/
theorem Frame.admits_cons (label : List Char) (t : Tree) (ts : List Tree) (rest : List Char) :
    Frame.Admits ⟨label, t :: ts⟩ rest := by
  simp [Frame.Admits]

/-- Everything that is read behind open nodes is a node that bracket notation can hold. -/
theorem isPlainTree_of_readOnto {cs : List Char} {stack : List Frame} {done : Option Tree} {t : Tree}
    (hstack : ∀ f ∈ stack, f.IsOpen) (hadmits : ∀ f ∈ stack.head?, f.Admits cs)
    (hdone : ∀ u ∈ done, IsPlainTree u ∧ u.isLeaf = false) (h : readOnto stack done cs = some t) :
    IsPlainTree t ∧ t.isLeaf = false := by
  induction cs using text_induction generalizing stack done with
  | nil =>
    cases stack with
    | nil => exact hdone t (by simpa using h)
    | cons f fs => simp at h
  | opening cs ih =>
    rw [readOnto_opening] at h
    split at h
    · simp at h
    · have hopen : Frame.IsOpen ⟨(Text.dropBlanks cs).takeWhile isPlain, []⟩ :=
        Frame.isOpen_opening fun c hc => List.mem_takeWhile_imp hc
      exact ih (List.forall_mem_cons.mpr ⟨hopen, hstack⟩) (by simpa using Frame.admits_opening cs) hdone h
  | closing cs ih =>
    cases stack with
    | nil => simp at h
    | cons f fs =>
      rw [readOnto_closing] at h
      rw [List.forall_mem_cons] at hstack
      have hnode := hstack.1.isPlainTree
      cases fs with
      | nil => exact ih hstack.2 (by simp) (by simpa [attach] using ⟨hnode, rfl⟩) h
      | cons g gs =>
        rw [List.forall_mem_cons] at hstack
        have hopen := hstack.2.1.cons hnode fun _ _ => rfl
        exact ih (List.forall_mem_cons.mpr ⟨hopen, hstack.2.2⟩)
          (by simpa [attach] using Frame.admits_cons _ _ _ cs) hdone h
  | blank c cs hc ih =>
    rw [readOnto_blank _ _ hc] at h
    refine ih hstack (fun f hf hlabel hchildren => ?_) hdone h
    rcases hadmits f hf hlabel hchildren c rfl with rfl | rfl <;> exact absurd hc (by decide)
  | word c cs hc ih =>
    cases stack with
    | nil => simp [readOnto_plain_nil _ hc] at h
    | cons f fs =>
      rw [readOnto_plain _ _ _ hc] at h
      rw [List.forall_mem_cons] at hstack
      have hword : IsPlainTree (.ofWord (String.ofList (c :: cs.takeWhile isPlain))) :=
        isPlainTree_ofWord (List.forall_mem_cons.mpr ⟨hc, fun d hd => List.mem_takeWhile_imp hd⟩)
      have hopen := hstack.1.cons hword fun hlabel hchildren => by
        rcases hadmits f rfl hlabel hchildren c rfl with rfl | rfl <;> exact absurd hc (by decide)
      exact ih (List.forall_mem_cons.mpr ⟨hopen, hstack.2⟩) (by simpa using Frame.admits_cons _ _ _ _) hdone h

/-- A tree that was read is a node that bracket notation can hold. -/
theorem isPlainTree_of_read {cs : List Char} {t : Tree} (h : read cs = .ok t) :
    IsPlainTree t ∧ t.isLeaf = false :=
  isPlainTree_of_readOnto (by simp) (by simp) (by simp) (read_eq_ok_iff.mp h)

/-- The codes in the words of a tree that was read can be replaced, and written again. -/
theorem IsPlainTree.mapWords_unescapeWord {t : Tree} (h : IsPlainTree t) :
    (t.mapWords unescapeWord).IsWritable ∧ (t.mapWords unescapeWord).HasRecoverableWords := by
  constructor
  · refine h.writable.mapWords fun w hw => ?_
    obtain ⟨s, hs, hword⟩ := h.writable.word _ hw
    obtain rfl := Option.some.inj hs
    exact isWord_unescapeWord hword.ne_empty (h.plain w hw)
  · rintro w hw u rfl
    rw [Tree.leaves_mapWords, List.mem_map] at hw
    obtain ⟨v, hv, hvw⟩ := hw
    obtain ⟨s, rfl, -⟩ := h.writable.word v hv
    obtain rfl := Option.some.inj hvw
    exact isRecoverable_unescapeWord (h.plain s hv)

end Constituency.Bracket
