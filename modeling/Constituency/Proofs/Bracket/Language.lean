import Constituency.Proofs.Bracket.Blocks

/-!
# The texts that are read

The reader has as many nodes open as the brackets are deep, so it goes in step with the segmentation of
the same text: it fails where the segmentation has an error, ends inside of a block, or has a block too many
or none (`isSome_readOnto_iff`). So the texts that are read are those with one block (`exists_read_iff`),
which are a block between blanks (`segment_eq_singleton_iff`).
-/
namespace Constituency.Bracket

/-! ### Blanks behind a text -/

theorem IsBlankText.isBoundary {cs : List Char} (h : IsBlankText cs) : IsBoundary cs :=
  fun c hc => isPlain_eq_false_of_isBlank (h c (List.mem_of_mem_head? hc))

variable {tail : List Char}

theorem takeWhile_isPlain_append (htail : IsBoundary tail) (cs : List Char) :
    (cs ++ tail).takeWhile isPlain = cs.takeWhile isPlain := by
  rw [List.takeWhile_append, htail.takeWhile_eq_nil, List.append_nil]
  split
  · next h => exact ((List.takeWhile_prefix isPlain).eq_of_length h).symm
  · rfl

theorem dropWhile_isPlain_append (htail : IsBoundary tail) (cs : List Char) :
    (cs ++ tail).dropWhile isPlain = cs.dropWhile isPlain ++ tail := by
  rw [List.dropWhile_append, htail.dropWhile_eq_self]
  split
  · next h => rw [List.isEmpty_iff.mp h, List.nil_append]
  · rfl

/-- Of blanks behind a text that is blank itself nothing is left. -/
theorem exists_dropBlanks_append (htail : IsBlankText tail) (cs : List Char) :
    ∃ tail', IsBlankText tail' ∧ Text.dropBlanks (cs ++ tail) = Text.dropBlanks cs ++ tail' := by
  unfold Text.dropBlanks
  rw [List.dropWhile_append]
  split
  · next h =>
    rw [List.isEmpty_iff.mp h]
    exact ⟨_, fun c hc => htail c ((List.dropWhile_sublist _).subset hc), rfl⟩
  · exact ⟨tail, htail, rfl⟩

/-- Blanks behind a text are passed over. -/
theorem readOnto_append_blanks (htail : IsBlankText tail) (stack : List Frame) (done : Option Tree)
    (cs : List Char) : readOnto stack done (cs ++ tail) = readOnto stack done cs := by
  induction cs using text_induction generalizing stack done tail with
  | nil =>
    rw [List.nil_append, ← List.append_nil tail]
    exact readOnto_gap stack done htail []
  | opening cs ih =>
    obtain ⟨tail', htail', hdrop⟩ := exists_dropBlanks_append htail cs
    rw [List.cons_append, readOnto_opening, readOnto_opening, hdrop,
      takeWhile_isPlain_append htail'.isBoundary, dropWhile_isPlain_append htail'.isBoundary, ih htail']
  | closing cs ih =>
    cases stack with
    | nil => rw [List.cons_append, readOnto_closing_nil, readOnto_closing_nil]
    | cons f fs => rw [List.cons_append, readOnto_closing, readOnto_closing, ih htail]
  | blank c cs hc ih => rw [List.cons_append, readOnto_blank _ _ hc, readOnto_blank _ _ hc, ih htail]
  | word c cs hc ih =>
    cases stack with
    | nil => rw [List.cons_append, readOnto_plain_nil _ hc, readOnto_plain_nil _ hc]
    | cons f fs =>
      rw [List.cons_append, readOnto_plain _ _ _ hc, readOnto_plain _ _ _ hc,
        takeWhile_isPlain_append htail.isBoundary, dropWhile_isPlain_append htail.isBoundary, ih htail]

/-! ### In step with the segmentation -/

/-- Characters other than brackets are taken into an open block. -/
theorem exists_outcome_dropWhile {p : Char → Bool} (hp : ∀ c, p c = true → c ≠ '(' ∧ c ≠ ')') (d : Nat)
    (text cs : List Char) :
    ∃ text', outcome ⟨d + 1, text⟩ cs = outcome ⟨d + 1, text'⟩ (cs.dropWhile p) := by
  induction cs generalizing text with
  | nil => exact ⟨text, rfl⟩
  | cons c cs ih =>
    rw [List.dropWhile_cons]
    split
    · next h =>
      rw [outcome_inside _ _ _ (hp c h).1 (hp c h).2]
      exact ih (c :: text)
    · exact ⟨text, rfl⟩

/-- An opening bracket makes a block deeper, and the label behind it is taken into the block. -/
theorem exists_outcome_opening (d : Nat) (text cs : List Char) :
    ∃ text', outcome ⟨d, text⟩ ('(' :: cs) =
      outcome ⟨d + 1, text'⟩ ((Text.dropBlanks cs).dropWhile isPlain) := by
  have hopening : ∃ text', outcome ⟨d, text⟩ ('(' :: cs) = outcome ⟨d + 1, text'⟩ cs := by
    cases d with
    | zero => exact ⟨_, outcome_start text cs⟩
    | succ d => exact ⟨_, outcome_deeper text cs d⟩
  obtain ⟨text₁, h₁⟩ := hopening
  obtain ⟨text₂, h₂⟩ := exists_outcome_dropWhile (fun _ => ne_bracket_of_isBlank) d text₁ cs
  obtain ⟨text₃, h₃⟩ :=
    exists_outcome_dropWhile (fun _ => ne_bracket_of_isPlain) d text₂ (Text.dropBlanks cs)
  exact ⟨text₃, h₁.trans (h₂.trans h₃)⟩

/-- A block that is open in front of a text without an error ends in this text. -/
theorem outcome_blocks_ne_nil {d : Nat} {text cs : List Char}
    (h : (outcome ⟨d + 1, text⟩ cs).final = none) : (outcome ⟨d + 1, text⟩ cs).blocks ≠ [] := by
  obtain ⟨front, rest, b, -, hyields, hfinal⟩ := exists_yields ⟨d + 1, text⟩ cs
  rcases hyields.exists_closes with ⟨-, hdepth⟩ | ⟨_, _, _, -, -, hblocks, -⟩
  · exact absurd (hfinal h).2 hdepth
  · rw [hblocks]
    exact List.cons_ne_nil _ _

/-- The reader, with a tree that is complete only outside of all nodes, gets to the end if and only if the
segmentation does, and the trees are one in all. -/
theorem isSome_readOnto_iff {stack : List Frame} {done : Option Tree} (hdone : stack ≠ [] → done = none)
    (text cs : List Char) :
    (readOnto stack done cs).isSome ↔ (outcome ⟨stack.length, text⟩ cs).final = none ∧
      done.toList.length + (outcome ⟨stack.length, text⟩ cs).blocks.length = 1 := by
  induction cs using text_induction generalizing stack done text with
  | nil =>
    cases stack with
    | nil => cases done <;> simp [OpenBlock.atEnd]
    | cons f fs => simp [OpenBlock.atEnd]
  | opening cs ih =>
    obtain ⟨text', htext'⟩ := exists_outcome_opening stack.length text cs
    rw [readOnto_opening, htext']
    cases done with
    | none =>
      rw [if_neg (by simp)]
      exact ih (fun _ => rfl) text'
    | some t =>
      -- a second tree is refused at once, and would be a second block
      have hstack : stack = [] := by
        by_contra hne
        exact absurd (hdone hne) (by simp)
      subst hstack
      rw [if_pos (by simp)]
      have hne := @outcome_blocks_ne_nil 0 text' ((Text.dropBlanks cs).dropWhile isPlain)
      simpa using hne
  | closing cs ih =>
    cases stack with
    | nil => simp
    | cons f fs =>
      obtain rfl := hdone (List.cons_ne_nil f fs)
      rw [readOnto_closing]
      cases fs with
      | nil =>
        rw [attach, ih (fun h => absurd rfl h) []]
        simp [Segmentation.cons, OpenBlock.none]
      | cons g gs =>
        rw [attach, ih (fun _ => rfl) (')' :: text)]
        simp
  | blank c cs hc ih =>
    rw [readOnto_blank _ _ hc]
    cases stack with
    | nil =>
      rw [ih hdone [], List.length_nil, outcome_blank _ _ hc, OpenBlock.none]
    | cons f fs =>
      rw [ih hdone (c :: text), List.length_cons,
        outcome_inside _ _ _ (ne_bracket_of_isBlank hc).1 (ne_bracket_of_isBlank hc).2]
  | word c cs hc ih =>
    cases stack with
    | nil => simp [readOnto_plain_nil _ hc, outcome_outside _ _ hc]
    | cons f fs =>
      obtain ⟨text', htext'⟩ :=
        exists_outcome_dropWhile (fun _ => ne_bracket_of_isPlain) fs.length text (c :: cs)
      rw [List.dropWhile_cons_of_pos hc] at htext'
      obtain rfl := hdone (List.cons_ne_nil f fs)
      rw [readOnto_plain _ _ _ hc, ih (fun _ => rfl) text', List.length_cons, List.length_cons, htext']

/-- A text is read if and only if it is segmented into one block. -/
theorem exists_read_iff {cs : List Char} :
    (∃ t, read cs = .ok t) ↔ ∃ b, segment [cs] = ⟨[b], none⟩ := by
  have hread : (∃ t, read cs = .ok t) ↔ (readOnto [] none cs).isSome := by
    simp only [read_eq_ok_iff, Option.isSome_iff_exists]
  rw [hread, isSome_readOnto_iff (fun h => absurd rfl h) []]
  constructor
  · rintro ⟨hfinal, hlength⟩
    obtain ⟨b, hb⟩ := List.length_eq_one_iff.mp (by simpa using hlength)
    refine ⟨b, Segmentation.eq_of_withoutLine ?_⟩
    rw [withoutLine_segment_singleton, ← hb, ← hfinal]
    rfl
  · rintro ⟨b, hb⟩
    have houtcome := withoutLine_segment_singleton cs
    rw [hb] at houtcome
    rw [List.length_nil, ← OpenBlock.none, ← houtcome]
    exact ⟨rfl, rfl⟩

/-! ### Blanks around a block -/

theorem depth_append (cs ds : List Char) : depth (cs ++ ds) = depth cs + depth ds := by
  simp [depth]
  omega

/-- A block ends with a closing bracket. -/
theorem IsBlock.exists_eq_append {b : List Char} (h : IsBlock b) : ∃ cs, b = '(' :: (cs ++ [')']) := by
  obtain ⟨cs, rfl, hcs⟩ := h
  rcases List.eq_nil_or_concat cs with rfl | ⟨front, c, rfl⟩
  · simp at hcs
  · have hclosed := hcs.closed
    have hopen := hcs.isOpen front [c] (by simp) (by simp)
    have hrise : rise c < 0 := by
      rw [List.concat_eq_append, depth_append, depth_cons, depth_nil] at hclosed
      omega
    have hc : c = ')' := by
      by_contra hne
      rw [rise] at hrise
      split at hrise <;> simp_all
    exact ⟨front, by rw [List.concat_eq_append, hc]⟩

/-- A text is its stripped text with a gap on each side. -/
theorem exists_gap_strip (cs : List Char) :
    ∃ gap tail, IsBlankText gap ∧ IsBlankText tail ∧ gap ++ (Text.strip cs ++ tail) = cs := by
  refine ⟨cs.takeWhile Text.isBlank, ((Text.dropBlanks cs).reverse.takeWhile Text.isBlank).reverse,
    fun c hc => List.mem_takeWhile_imp hc, fun c hc => ?_, ?_⟩
  · exact List.mem_takeWhile_imp (List.mem_reverse.mp hc)
  · have hstrip : Text.strip cs = Text.dropTrailing Text.isBlank (Text.dropBlanks cs) := rfl
    rw [hstrip, dropTrailing_append_takeWhile, Text.dropBlanks, List.takeWhile_append_dropWhile]

/-- A block is what is left when the blanks around it are stripped. -/
theorem IsBlock.strip_eq {gap b tail : List Char} (h : IsBlock b) (hgap : IsBlankText gap)
    (htail : IsBlankText tail) : Text.strip (gap ++ (b ++ tail)) = b := by
  obtain ⟨cs, rfl⟩ := h.exists_eq_append
  have htail' : ∀ c ∈ tail.reverse, Text.isBlank c = true := fun c hc => htail c (List.mem_reverse.mp hc)
  have hfront : Text.dropBlanks (gap ++ ('(' :: (cs ++ [')']) ++ tail)) = '(' :: (cs ++ [')']) ++ tail := by
    rw [Text.dropBlanks, List.dropWhile_append_of_pos hgap, List.cons_append,
      List.dropWhile_cons_of_neg (by decide)]
  rw [Text.strip, hfront, Text.dropBlanks, List.reverse_append, List.dropWhile_append_of_pos htail',
    ← List.cons_append, List.reverse_concat, List.dropWhile_cons_of_neg (by decide),
    ← List.reverse_concat, List.reverse_reverse]

/-- The blanks around a block do not show in what is read. -/
theorem read_gap_append {gap b tail : List Char} (hgap : IsBlankText gap) (htail : IsBlankText tail)
    (t : Tree) : read (gap ++ (b ++ tail)) = .ok t ↔ read b = .ok t := by
  rw [read_eq_ok_iff, read_eq_ok_iff, readOnto_gap [] none hgap, readOnto_append_blanks htail]

/-- The texts with one block are blocks with a gap on each side. -/
theorem segment_eq_singleton_iff {cs b : List Char} :
    segment [cs] = ⟨[b], none⟩ ↔
      ∃ gap tail, IsBlankText gap ∧ IsBlock b ∧ IsBlankText tail ∧ gap ++ (b ++ tail) = cs := by
  rw [segment_eq_iff]
  constructor
  · rintro ⟨⟨gap, items⟩, hs, hblocks, rfl⟩
    obtain ⟨⟨b', tail⟩, rfl, rfl⟩ := List.map_eq_singleton_iff.mp hblocks
    have hitem := hs.item _ (List.mem_singleton_self _)
    exact ⟨gap, tail, hs.gap, hitem.1, hitem.2, by simp [Spread.text]⟩
  · rintro ⟨gap, tail, hgap, hb, htail, rfl⟩
    refine ⟨⟨gap, [(b, tail)]⟩, ⟨hgap, ?_⟩, rfl, by simp [Spread.text]⟩
    simpa using ⟨hb, htail⟩

/-- Each block is read. -/
theorem IsBlock.exists_read {b : List Char} (h : IsBlock b) : ∃ t, read b = .ok t := by
  refine exists_read_iff.mpr ⟨b, segment_eq_singleton_iff.mpr ⟨[], [], ?_, h, ?_, by simp⟩⟩ <;>
    simp [IsBlankText]

/-- A text is read as a tree if and only if it is a block when the blanks around it are stripped, and if
and only if it is segmented into one block without an error; the block is read as the same tree. All blocks
of lines are read, also when an error follows. -/
theorem read_iff_segment :
    (∀ s : String, ((∃ t, Tree.read s = .ok t) ↔ IsBlock (Text.strip s.toList)) ∧
      ((∃ t, Tree.read s = .ok t) ↔ ∃ b, segment [s.toList] = ⟨[b], none⟩) ∧
      ∀ b, segment [s.toList] = ⟨[b], none⟩ →
        ∃ t, Tree.read s = .ok t ∧ Tree.read (String.ofList b) = .ok t) ∧
    ∀ lines : List (List Char), ∀ b ∈ (segment lines).blocks, ∃ t, Tree.read (String.ofList b) = .ok t := by
  refine ⟨fun s => ⟨?_, exists_read_iff, fun b hb => ?_⟩, fun lines b hb => ?_⟩
  · refine exists_read_iff.trans ⟨?_, fun h => ?_⟩
    · rintro ⟨b, hb⟩
      obtain ⟨gap, tail, hgap, hblock, htail, hs⟩ := segment_eq_singleton_iff.mp hb
      rwa [← hs, hblock.strip_eq hgap htail]
    · obtain ⟨gap, tail, hgap, htail, hs⟩ := exists_gap_strip s.toList
      exact ⟨_, segment_eq_singleton_iff.mpr ⟨gap, tail, hgap, h, htail, hs⟩⟩
  · obtain ⟨gap, tail, hgap, hblock, htail, hs⟩ := segment_eq_singleton_iff.mp hb
    obtain ⟨t, ht⟩ := hblock.exists_read
    refine ⟨t, ?_, by rwa [Tree.read, String.toList_ofList]⟩
    rw [Tree.read, ← hs]
    exact (read_gap_append hgap htail t).mpr ht
  · rw [Tree.read, String.toList_ofList]
    exact (isBlock_of_mem_segment hb).exists_read

/-- A tree between blanks, and a block in front of text outside of all brackets. -/
theorem read_iff_segment_indented :
    (∃ t, Tree.read " (S (A a)\tb) \n" = .ok t ∧
      Tree.read (String.ofList "(S (A a)\tb)".toList) = .ok t) ∧
    ∃ t, Tree.read (String.ofList "(A a)".toList) = .ok t :=
  ⟨(read_iff_segment.1 " (S (A a)\tb) \n").2.2 "(S (A a)\tb)".toList (by rfl),
    read_iff_segment.2 ["(A a) b".toList] "(A a)".toList (by decide)⟩

end Constituency.Bracket
