import Constituency.Proofs.Bracket.Segment

/-!
# Blocks by the bracket depth

A block begins with an opening bracket and ends with the closing bracket that first returns the depth to
zero (`IsBlock`). The blocks of a text stand between gaps of blanks, and nothing else does, unless the text
has an error or ends inside of a block (`exists_spread`); and texts of this form are segmented into exactly
these blocks (`segment_spread`), in one line or in many.
-/
namespace Constituency.Bracket

/-! ### Depth -/

/-- How much deeper the brackets are behind a text than in front of it. -/
def depth (cs : List Char) : Int := cs.count '(' - cs.count ')'

/-- How much deeper the brackets are behind a character. -/
def rise (c : Char) : Int := if c = '(' then 1 else if c = ')' then -1 else 0

theorem rise_of_ne {c : Char} (hopen : c ≠ '(') (hclose : c ≠ ')') : rise c = 0 := by
  simp [rise, hopen, hclose]

@[simp] theorem depth_nil : depth [] = 0 := rfl

@[simp] theorem depth_cons (c : Char) (cs : List Char) : depth (c :: cs) = rise c + depth cs := by
  by_cases hopen : c = '('
  · subst hopen
    simp [depth, rise]
    omega
  by_cases hclose : c = ')'
  · subst hclose
    simp [depth, rise]
    omega
  simp [depth, rise, hopen, hclose]

/-- From a depth on, a text returns it to zero with its last character, and not before. -/
structure Closes (d : Int) (cs : List Char) : Prop where
  closed : d + depth cs = 0
  isOpen : ∀ front rest, front ++ rest = cs → rest ≠ [] → 0 < d + depth front

/-- A text that begins with an opening bracket and ends with the closing bracket that first returns the
depth to zero. -/
def IsBlock (b : List Char) : Prop := ∃ cs, b = '(' :: cs ∧ Closes 1 cs

variable {d : Int} {c : Char} {cs : List Char}

@[simp] theorem closes_nil : Closes d [] ↔ d = 0 := by
  constructor
  · exact fun h => by simpa using h.closed
  · rintro rfl
    exact ⟨rfl, fun front rest h hrest => absurd (List.append_eq_nil_iff.mp h).2 hrest⟩

theorem closes_cons : Closes d (c :: cs) ↔ 0 < d ∧ Closes (d + rise c) cs := by
  constructor
  · intro h
    refine ⟨by simpa using h.isOpen [] (c :: cs) rfl (List.cons_ne_nil c cs), ?_, ?_⟩
    · have hclosed := h.closed
      rw [depth_cons] at hclosed
      omega
    · intro front rest hcs hrest
      have hopen := h.isOpen (c :: front) rest (by rw [List.cons_append, hcs]) hrest
      rw [depth_cons] at hopen
      omega
  · rintro ⟨hd, h⟩
    refine ⟨?_, ?_⟩
    · have hclosed := h.closed
      rw [depth_cons]
      omega
    · intro front rest hcs hrest
      cases front with
      | nil => simpa using hd
      | cons c' front =>
        rw [List.cons_append, List.cons.injEq] at hcs
        obtain ⟨rfl, hcs⟩ := hcs
        have hopen := h.isOpen front rest hcs hrest
        rw [depth_cons]
        omega

theorem closes_opening : Closes d ('(' :: cs) ↔ 0 < d ∧ Closes (d + 1) cs := closes_cons

theorem closes_closing : Closes d (')' :: cs) ↔ 0 < d ∧ Closes (d - 1) cs := closes_cons

theorem closes_inside (hopen : c ≠ '(') (hclose : c ≠ ')') :
    Closes d (c :: cs) ↔ 0 < d ∧ Closes d cs := by
  rw [closes_cons, rise_of_ne hopen hclose, Int.add_zero]

/-- What is closed already is empty. -/
theorem closes_zero : Closes 0 cs ↔ cs = [] := by
  cases cs with
  | nil => simp
  | cons c cs => simp [closes_cons]

/-! ### Blocks of a text -/

/-- A text that closes an open block ends with it. -/
theorem Closes.yields {d : Nat} (h : Closes (d + 1) cs) (text : List Char) :
    Yields ⟨d + 1, text⟩ cs [text.reverse ++ cs] .none := by
  induction cs generalizing d text with
  | nil =>
    rw [closes_nil] at h
    omega
  | cons c cs ih =>
    by_cases hopen : c = '('
    · subst hopen
      have hrest := ih (d := d + 1) (closes_opening.mp h).2 ('(' :: text)
      exact .deeper (by simpa using hrest)
    by_cases hclose : c = ')'
    · subst hclose
      have h := (closes_closing.mp h).2
      rw [Int.add_sub_cancel] at h
      cases d with
      | zero =>
        obtain rfl := closes_zero.mp h
        simpa using @Yields.finish text [] [] .none (.nil .none)
      | succ d => exact .shallower (by simpa using ih h (')' :: text))
    · have hrest := ih ((closes_inside hopen hclose).mp h).2 (c :: text)
      exact .inside hopen hclose (by simpa using hrest)

theorem IsBlock.yields {b : List Char} (h : IsBlock b) : Yields .none b [b] .none := by
  obtain ⟨cs, rfl, hcs⟩ := h
  exact .start (Closes.yields (d := 0) hcs ['('])

/-- The first block that a text behind an open one yields is this one, up to where it is closed. -/
theorem Yields.exists_closes {d : Nat} {text cs : List Char} {blocks : List (List Char)} {b : OpenBlock}
    (h : Yields ⟨d + 1, text⟩ cs blocks b) :
    (blocks = [] ∧ b.depth ≠ 0) ∨ ∃ front rest blocks', front ++ rest = cs ∧ Closes (d + 1) front ∧
      blocks = (text.reverse ++ front) :: blocks' ∧ Yields .none rest blocks' b := by
  induction cs generalizing d text with
  | nil =>
    cases h
    exact Or.inl ⟨rfl, Nat.succ_ne_zero d⟩
  | cons c cs ih =>
    cases h with
    | deeper h =>
      refine (ih h).imp_right ?_
      rintro ⟨front, rest, blocks', rfl, hfront, rfl, hrest⟩
      exact ⟨'(' :: front, rest, blocks', rfl, closes_opening.mpr ⟨by omega, hfront⟩, by simp, hrest⟩
    | finish h => exact Or.inr ⟨[')'], cs, _, rfl, by simp [closes_closing], by simp, h⟩
    | @shallower d _ _ _ _ h =>
      refine (ih h).imp_right ?_
      rintro ⟨front, rest, blocks', rfl, hfront, rfl, hrest⟩
      refine ⟨')' :: front, rest, blocks', rfl, closes_closing.mpr ⟨by omega, ?_⟩, by simp, hrest⟩
      rwa [Int.add_sub_cancel]
    | inside hopen hclose h =>
      refine (ih h).imp_right ?_
      rintro ⟨front, rest, blocks', rfl, hfront, rfl, hrest⟩
      exact ⟨c :: front, rest, blocks', rfl, (closes_inside hopen hclose).mpr ⟨by omega, hfront⟩,
        by simp, hrest⟩

/-! ### Blocks between gaps -/

/-- Whether a text has no characters but blanks. -/
def IsBlankText (cs : List Char) : Prop := ∀ c ∈ cs, Text.isBlank c = true

/-- A gap, and blocks with a gap behind each of them. -/
structure Spread where
  gap : List Char
  items : List (List Char × List Char)

namespace Spread

/-- The blocks. -/
def blocks (s : Spread) : List (List Char) := s.items.map Prod.fst

/-- The text of the gaps and blocks. -/
def text (s : Spread) : List Char := s.gap ++ s.items.flatMap fun x => x.1 ++ x.2

/-- The gaps are gaps and the blocks are blocks. -/
structure IsProper (s : Spread) : Prop where
  gap : IsBlankText s.gap
  item : ∀ x ∈ s.items, IsBlock x.1 ∧ IsBlankText x.2

/-- A block in front of a spread text, behind a gap. -/
theorem text_cons (gap b : List Char) (s : Spread) :
    text ⟨gap, (b, s.gap) :: s.items⟩ = gap ++ (b ++ s.text) := by
  simp [text]

end Spread

/-- Blocks between gaps are yielded. -/
theorem Spread.IsProper.yields {s : Spread} (h : s.IsProper) : Yields .none s.text s.blocks .none := by
  obtain ⟨gap, items⟩ := s
  induction items generalizing gap with
  | nil =>
    have hgap := (Yields.nil .none).gap h.gap
    simpa [Spread.text, Spread.blocks] using hgap
  | cons x items ih =>
    obtain ⟨b, gap'⟩ := x
    have hitems := List.forall_mem_cons.mp h.item
    have hrest := ih gap' ⟨hitems.1.2, hitems.2⟩
    have hb := (hitems.1.1.yields.append hrest).gap h.gap
    simpa [Spread.text, Spread.blocks] using hb

/-- The blocks that a text yields stand between gaps; what is left behind them is an open block. -/
theorem Yields.exists_spread {text cs : List Char} {blocks : List (List Char)} {b : OpenBlock}
    (h : Yields ⟨0, text⟩ cs blocks b) :
    ∃ (s : Spread) (rest : List Char), s.IsProper ∧ s.text ++ rest = cs ∧ s.blocks = blocks ∧
      (b.depth = 0 → rest = []) := by
  -- on the length: behind a block that ends, what is left is a text of its own
  induction hn : cs.length using Nat.strongRecOn generalizing text cs blocks with
  | _ n ih =>
    subst hn
    cases h with
    | nil => exact ⟨⟨[], []⟩, [], ⟨by simp [IsBlankText], by simp⟩, rfl, rfl, fun _ => rfl⟩
    | @start _ cs _ _ h =>
      rcases Yields.exists_closes h with ⟨rfl, hdepth⟩ | ⟨front, rest, blocks', rfl, hfront, rfl, hrest⟩
      · refine ⟨⟨[], []⟩, _, ⟨by simp [IsBlankText], by simp⟩, rfl, rfl, fun h => absurd h hdepth⟩
      · have hlength : rest.length < ('(' :: (front ++ rest)).length := by
          rw [List.length_cons, List.length_append]
          omega
        obtain ⟨s, rest', hs, rfl, rfl, hopen⟩ := ih rest.length hlength hrest rfl
        have hblock : IsBlock ('(' :: front) := ⟨front, rfl, by simpa using hfront⟩
        refine ⟨⟨[], ('(' :: front, s.gap) :: s.items⟩, rest', ⟨by simp [IsBlankText], ?_⟩, ?_, rfl, hopen⟩
        · exact List.forall_mem_cons.mpr ⟨⟨hblock, hs.gap⟩, hs.item⟩
        · simp [Spread.text_cons]
    | @blank _ cs c _ _ hc h =>
      obtain ⟨s, rest, hs, rfl, rfl, hopen⟩ := ih cs.length (Nat.lt_succ_self _) h rfl
      refine ⟨⟨c :: s.gap, s.items⟩, rest, ⟨?_, hs.item⟩, by simp [Spread.text], rfl, hopen⟩
      exact List.forall_mem_cons.mpr ⟨hc, hs.gap⟩

/-! ### Segmentation -/

/-- Up to the first error, a text yields its blocks. -/
theorem exists_yields (b : OpenBlock) (cs : List Char) :
    ∃ front rest b', front ++ rest = cs ∧ Yields b front (outcome b cs).blocks b' ∧
      ((outcome b cs).final = none → rest = [] ∧ b'.depth = 0) := by
  induction b, cs using block_induction with
  | nil b =>
    refine ⟨[], [], b, rfl, by simpa [OpenBlock.atEnd] using Yields.nil b, fun h => ⟨rfl, ?_⟩⟩
    by_contra hb
    simp [OpenBlock.atEnd, hb] at h
  | start text cs ih =>
    obtain ⟨front, rest, b', rfl, hyields, hfinal⟩ := ih
    rw [outcome_start]
    exact ⟨'(' :: front, rest, b', rfl, hyields.start, hfinal⟩
  | unopened text cs =>
    rw [outcome_unopened]
    exact ⟨[], _, ⟨0, text⟩, rfl, .nil _, by simp⟩
  | blank text c cs h ih =>
    obtain ⟨front, rest, b', rfl, hyields, hfinal⟩ := ih
    rw [outcome_blank _ _ h]
    exact ⟨c :: front, rest, b', rfl, hyields.blank h, hfinal⟩
  | outside text c cs h =>
    rw [outcome_outside _ _ h]
    exact ⟨[], _, ⟨0, text⟩, rfl, .nil _, by simp⟩
  | deeper d text cs ih =>
    obtain ⟨front, rest, b', rfl, hyields, hfinal⟩ := ih
    rw [outcome_deeper]
    exact ⟨'(' :: front, rest, b', rfl, hyields.deeper, hfinal⟩
  | finish text cs ih =>
    obtain ⟨front, rest, b', rfl, hyields, hfinal⟩ := ih
    rw [outcome_finish]
    exact ⟨')' :: front, rest, b', rfl, hyields.finish, hfinal⟩
  | shallower d text cs ih =>
    obtain ⟨front, rest, b', rfl, hyields, hfinal⟩ := ih
    rw [outcome_shallower]
    exact ⟨')' :: front, rest, b', rfl, hyields.shallower, hfinal⟩
  | inside d text c cs hopen hclose ih =>
    obtain ⟨front, rest, b', rfl, hyields, hfinal⟩ := ih
    rw [outcome_inside _ _ _ hopen hclose]
    exact ⟨c :: front, rest, b', rfl, hyields.inside hopen hclose, hfinal⟩

/-- The blocks of a text stand between gaps, and without an error nothing else does. -/
theorem exists_spread (cs : List Char) :
    ∃ (s : Spread) (rest : List Char), s.IsProper ∧ s.text ++ rest = cs ∧
      s.blocks = (outcome .none cs).blocks ∧ ((outcome .none cs).final = none → rest = []) := by
  obtain ⟨front, rest, b, rfl, hyields, hfinal⟩ := exists_yields .none cs
  obtain ⟨s, rest', hs, rfl, hblocks, hopen⟩ := hyields.exists_spread
  refine ⟨s, rest' ++ rest, hs, by rw [List.append_assoc], hblocks, fun h => ?_⟩
  obtain ⟨rfl, hb⟩ := hfinal h
  rw [hopen hb, List.append_nil]

/-- Blocks between gaps are segmented into these blocks. -/
theorem segment_spread {s : Spread} (h : s.IsProper) : segment [s.text] = ⟨s.blocks, none⟩ := by
  refine Segmentation.eq_of_withoutLine ?_
  rw [withoutLine_segment_singleton, h.yields.outcome_eq rfl]

/-- A text is segmented without an error if and only if it is made of blocks between gaps. -/
theorem segment_eq_iff {cs : List Char} {blocks : List (List Char)} :
    segment [cs] = ⟨blocks, none⟩ ↔ ∃ s : Spread, s.IsProper ∧ s.blocks = blocks ∧ s.text = cs := by
  constructor
  · intro h
    obtain ⟨s, rest, hs, htext, hblocks, hrest⟩ := exists_spread cs
    rw [← withoutLine_segment_singleton, h] at hblocks hrest
    obtain rfl := hrest rfl
    exact ⟨s, hs, hblocks, by rw [← htext, List.append_nil]⟩
  · rintro ⟨s, hs, rfl, rfl⟩
    exact segment_spread hs

/-- Whatever the lines are, each block that they yield is one. -/
theorem isBlock_of_mem_segment {lines : List (List Char)} {b : List Char}
    (h : b ∈ (segment lines).blocks) : IsBlock b := by
  obtain ⟨s, _, hs, _, hblocks, _⟩ :=
    exists_spread (lines.flatMap fun l => Text.dropTrailing isLineEnd l ++ ['\n'])
  have hb : b ∈ (segment lines).withoutLine.blocks := h
  rw [segment, withoutLine_segmentFrom, ← hblocks] at hb
  obtain ⟨x, hx, rfl⟩ := List.mem_map.mp hb
  exact (hs.item x hx).1

/-- Lines yield the blocks of the text that they are joined to, and fail with an error if this text does;
without an error the text is made of the blocks and of blanks between them. Blocks with blanks between them
are segmented into these blocks. -/
theorem segment_layout :
    (∀ lines : List (List Char), (∀ l ∈ lines, '\r' ∉ l ∧ '\n' ∉ l) →
      (segment [['\n'].intercalate lines]).blocks = (segment lines).blocks ∧
      ((segment [['\n'].intercalate lines]).final = none ↔ (segment lines).final = none) ∧
      (segment [['\n'].intercalate lines]).final.map SegmentError.withoutLine =
        (segment lines).final.map SegmentError.withoutLine ∧
      ((segment lines).final = none → ∃ s : Spread, s.IsProper ∧
        s.blocks = (segment lines).blocks ∧ s.text = ['\n'].intercalate lines)) ∧
    ∀ s : Spread, s.IsProper → segment [s.text] = ⟨s.blocks, none⟩ := by
  refine ⟨fun lines hlines => ?_, fun s hs => segment_spread hs⟩
  have hjoined := withoutLine_segment_of_lines hlines
  have hsame := (withoutLine_segment_singleton (['\n'].intercalate lines)).trans hjoined.symm
  obtain ⟨hblocks, hfinal⟩ := Segmentation.mk.inj hsame
  refine ⟨hblocks, ?_, hfinal, fun hnone => ?_⟩
  · rw [← Option.map_eq_none_iff, hfinal, Option.map_eq_none_iff]
  · refine segment_eq_iff.mp (Segmentation.eq_of_withoutLine ?_)
    rw [hsame, Segmentation.withoutLine, hnone, Option.map_none]

/-- A tree over three lines, one of them empty, and a second tree in the last of them. -/
theorem segment_layout_threeLines :
    ∃ s : Spread, s.IsProper ∧ s.text = "(S (A a)\n\n(B b)) (C)".toList ∧
      segment [s.text] = ⟨["(S (A a)\n\n(B b))".toList, "(C)".toList], none⟩ := by
  obtain ⟨s, hs, hblocks, htext⟩ :=
    (segment_layout.1 ["(S (A a)".toList, [], "(B b)) (C)".toList] (by decide)).2.2.2 (by decide)
  refine ⟨s, hs, by rw [htext]; decide, ?_⟩
  rw [segment_layout.2 s hs, hblocks, Segmentation.mk.injEq]
  decide

end Constituency.Bracket
