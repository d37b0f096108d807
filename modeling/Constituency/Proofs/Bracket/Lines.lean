import Constituency.Bracket.Segment
import Constituency.Proofs.Bracket.Escape
import Constituency.Proofs.Label
import Mathlib.Data.List.Basic

/-!
# The layout of lines

A line break inside of a block is a character of the block, and one between blocks is a blank. So lines
give the blocks of the text that they are the lines of (`outcome`), and fail as this text does
(`withoutLine_segmentFrom`); only the line that an error names depends on the layout.
-/
namespace Constituency.Bracket

/-! ### One character -/

variable (line text cs : List Char) (d : Nat)

@[simp] theorem segmentLine_nil (b : OpenBlock) : segmentLine line b [] = ⟨[], .ok b⟩ := rfl

variable (c : Char)

theorem segmentLine_zero_cons :
    segmentLine line ⟨0, text⟩ (c :: cs) =
      if c = '(' then segmentLine line ⟨1, ['(']⟩ cs
      else if c = ')' then ⟨[], .error (.unbalanced line)⟩
      else if Text.isBlank c then segmentLine line .none cs
      else ⟨[], .error (.outside line)⟩ := rfl

theorem segmentLine_succ_cons :
    segmentLine line ⟨d + 1, text⟩ (c :: cs) =
      if c = '(' then segmentLine line ⟨d + 2, c :: text⟩ cs
      else if c = ')' then
        if d = 0 then (segmentLine line .none cs).cons (c :: text).reverse
        else segmentLine line ⟨d, c :: text⟩ cs
      else segmentLine line ⟨d + 1, c :: text⟩ cs := rfl

@[simp] theorem segmentLine_start :
    segmentLine line ⟨0, text⟩ ('(' :: cs) = segmentLine line ⟨1, ['(']⟩ cs := by
  rw [segmentLine_zero_cons, if_pos rfl]

@[simp] theorem segmentLine_unopened :
    segmentLine line ⟨0, text⟩ (')' :: cs) = ⟨[], .error (.unbalanced line)⟩ := by
  rw [segmentLine_zero_cons, if_neg (by decide), if_pos rfl]

variable {c}

theorem segmentLine_blank (h : Text.isBlank c = true) :
    segmentLine line ⟨0, text⟩ (c :: cs) = segmentLine line .none cs := by
  obtain ⟨hopen, hclose⟩ := ne_bracket_of_isBlank h
  rw [segmentLine_zero_cons, if_neg hopen, if_neg hclose, if_pos h]

theorem segmentLine_outside (h : isPlain c = true) :
    segmentLine line ⟨0, text⟩ (c :: cs) = ⟨[], .error (.outside line)⟩ := by
  obtain ⟨hblank, hopen, hclose⟩ := isPlain_iff.mp h
  rw [segmentLine_zero_cons, if_neg hopen, if_neg hclose, if_neg (by simp [hblank])]

@[simp] theorem segmentLine_deeper :
    segmentLine line ⟨d + 1, text⟩ ('(' :: cs) = segmentLine line ⟨d + 2, '(' :: text⟩ cs := by
  rw [segmentLine_succ_cons, if_pos rfl]

@[simp] theorem segmentLine_finish :
    segmentLine line ⟨1, text⟩ (')' :: cs) =
      (segmentLine line .none cs).cons (')' :: text).reverse := by
  rw [segmentLine_succ_cons, if_neg (by decide), if_pos rfl, if_pos rfl]

@[simp] theorem segmentLine_shallower :
    segmentLine line ⟨d + 2, text⟩ (')' :: cs) = segmentLine line ⟨d + 1, ')' :: text⟩ cs := by
  rw [segmentLine_succ_cons, if_neg (by decide), if_pos rfl, if_neg (Nat.succ_ne_zero d)]

theorem segmentLine_inside (hopen : c ≠ '(') (hclose : c ≠ ')') :
    segmentLine line ⟨d + 1, text⟩ (c :: cs) = segmentLine line ⟨d + 1, c :: text⟩ cs := by
  rw [segmentLine_succ_cons, if_neg hopen, if_neg hclose]

/-- What holds of an open block and a text can be shown along the text, by the depth in front of each
character. -/
@[elab_as_elim]
theorem block_induction {motive : OpenBlock → List Char → Prop} (nil : ∀ b, motive b [])
    (start : ∀ text cs, motive ⟨1, ['(']⟩ cs → motive ⟨0, text⟩ ('(' :: cs))
    (unopened : ∀ text cs, motive ⟨0, text⟩ (')' :: cs))
    (blank : ∀ text c cs, Text.isBlank c = true → motive .none cs → motive ⟨0, text⟩ (c :: cs))
    (outside : ∀ text c cs, isPlain c = true → motive ⟨0, text⟩ (c :: cs))
    (deeper : ∀ d text cs, motive ⟨d + 2, '(' :: text⟩ cs → motive ⟨d + 1, text⟩ ('(' :: cs))
    (finish : ∀ text cs, motive .none cs → motive ⟨1, text⟩ (')' :: cs))
    (shallower : ∀ d text cs, motive ⟨d + 1, ')' :: text⟩ cs → motive ⟨d + 2, text⟩ (')' :: cs))
    (inside : ∀ d text c cs, c ≠ '(' → c ≠ ')' → motive ⟨d + 1, c :: text⟩ cs →
      motive ⟨d + 1, text⟩ (c :: cs))
    (b : OpenBlock) (cs : List Char) : motive b cs := by
  induction cs generalizing b with
  | nil => exact nil b
  | cons c cs ih =>
    obtain ⟨depth, text⟩ := b
    by_cases hopen : c = '('
    · subst hopen
      cases depth with
      | zero => exact start text cs (ih _)
      | succ d => exact deeper d text cs (ih _)
    by_cases hclose : c = ')'
    · subst hclose
      match depth with
      | 0 => exact unopened text cs
      | 1 => exact finish text cs (ih _)
      | d + 2 => exact shallower d text cs (ih _)
    cases depth with
    | zero =>
      cases hblank : Text.isBlank c with
      | true => exact blank text c cs hblank (ih _)
      | false => exact outside text c cs (isPlain_iff.mpr ⟨hblank, hopen, hclose⟩)
    | succ d => exact inside d text c cs hopen hclose (ih _)

/-! ### What follows a text -/

/-- An error without the line in which it is met. -/
def SegmentError.withoutLine : SegmentError → SegmentError
  | unbalanced _ => unbalanced []
  | outside _ => outside []
  | unclosed depth => unclosed depth

namespace Segmentation

/-- A segmentation without the line of its error. -/
def withoutLine (s : Segmentation (Option SegmentError)) : Segmentation (Option SegmentError) :=
  ⟨s.blocks, s.final.map SegmentError.withoutLine⟩

/-- Go on behind a text that has no error. -/
def andThen {σ : Type} (s : Segmentation (Except SegmentError σ))
    (next : σ → Segmentation (Option SegmentError)) : Segmentation (Option SegmentError) :=
  match s.final with
  | .error e => ⟨s.blocks, some e⟩
  | .ok b => ⟨s.blocks ++ (next b).blocks, (next b).final⟩

variable {σ : Type} (next : σ → Segmentation (Option SegmentError))

@[simp] theorem andThen_error (e : SegmentError) : andThen ⟨[], .error e⟩ next = ⟨[], some e⟩ := rfl

@[simp] theorem andThen_ok (b : σ) : andThen ⟨[], .ok b⟩ next = next b := rfl

@[simp] theorem andThen_cons (block : List Char) (s : Segmentation (Except SegmentError σ)) :
    (s.cons block).andThen next = (s.andThen next).cons block := by
  obtain ⟨blocks, final⟩ := s
  cases final <;> rfl

/-- Without an error there is no line to be left out. -/
theorem eq_of_withoutLine {s : Segmentation (Option SegmentError)} {blocks : List (List Char)}
    (h : s.withoutLine = ⟨blocks, none⟩) : s = ⟨blocks, none⟩ := by
  obtain ⟨blocks', final⟩ := s
  cases final with
  | none => simpa [withoutLine] using h
  | some e => simp [withoutLine] at h

@[simp] theorem withoutLine_cons (block : List Char) (s : Segmentation (Option SegmentError)) :
    (s.cons block).withoutLine = s.withoutLine.cons block := rfl

end Segmentation

/-- Behind a part of a text goes on what follows this part. -/
theorem andThen_segmentLine_append (b : OpenBlock) (ds : List Char)
    (next : OpenBlock → Segmentation (Option SegmentError)) :
    (segmentLine line b (cs ++ ds)).andThen next =
      (segmentLine line b cs).andThen fun b' => (segmentLine line b' ds).andThen next := by
  induction b, cs using block_induction with
  | nil b => simp
  | start text cs ih => simp [ih]
  | unopened text cs => simp
  | blank text c cs h ih => simp [segmentLine_blank, h, ih]
  | outside text c cs h => simp [segmentLine_outside, h]
  | deeper d text cs ih => simp [ih]
  | finish text cs ih => simp [ih]
  | shallower d text cs ih => simp [ih]
  | inside d text c cs hopen hclose ih => simp [segmentLine_inside, hopen, hclose, ih]

/-- The line that a text stands in shows in errors only. -/
theorem withoutLine_andThen_segmentLine (b : OpenBlock)
    (next : OpenBlock → Segmentation (Option SegmentError)) :
    ((segmentLine line b cs).andThen next).withoutLine =
      (segmentLine [] b cs).andThen fun b' => (next b').withoutLine := by
  induction b, cs using block_induction with
  | nil b => simp
  | start text cs ih => simp [ih]
  | unopened text cs => simp [Segmentation.withoutLine, SegmentError.withoutLine]
  | blank text c cs h ih => simp [segmentLine_blank, h, ih]
  | outside text c cs h =>
    simp [segmentLine_outside, h, Segmentation.withoutLine, SegmentError.withoutLine]
  | deeper d text cs ih => simp [ih]
  | finish text cs ih => simp [ih]
  | shallower d text cs ih => simp [ih]
  | inside d text c cs hopen hclose ih => simp [segmentLine_inside, hopen, hclose, ih]

/-! ### Texts and their lines -/

/-- The end of the input behind an open block. -/
def OpenBlock.atEnd (b : OpenBlock) : Segmentation (Option SegmentError) :=
  ⟨[], if b.depth = 0 then Option.none else some (.unclosed b.depth)⟩

/-- What a text behind an open block gives: its blocks up to the first error, and this error without its
line. -/
def outcome (b : OpenBlock) (cs : List Char) : Segmentation (Option SegmentError) :=
  (segmentLine [] b cs).andThen OpenBlock.atEnd

@[simp] theorem outcome_nil (b : OpenBlock) : outcome b [] = b.atEnd := by
  rw [outcome, segmentLine_nil, Segmentation.andThen_ok]

@[simp] theorem outcome_start : outcome ⟨0, text⟩ ('(' :: cs) = outcome ⟨1, ['(']⟩ cs := by
  rw [outcome, segmentLine_start, outcome]

@[simp] theorem outcome_unopened :
    outcome ⟨0, text⟩ (')' :: cs) = ⟨[], some (.unbalanced [])⟩ := by
  rw [outcome, segmentLine_unopened, Segmentation.andThen_error]

theorem outcome_blank (h : Text.isBlank c = true) :
    outcome ⟨0, text⟩ (c :: cs) = outcome .none cs := by
  rw [outcome, segmentLine_blank _ _ _ h, outcome]

theorem outcome_outside (h : isPlain c = true) :
    outcome ⟨0, text⟩ (c :: cs) = ⟨[], some (.outside [])⟩ := by
  rw [outcome, segmentLine_outside _ _ _ h, Segmentation.andThen_error]

@[simp] theorem outcome_deeper :
    outcome ⟨d + 1, text⟩ ('(' :: cs) = outcome ⟨d + 2, '(' :: text⟩ cs := by
  rw [outcome, segmentLine_deeper, outcome]

@[simp] theorem outcome_finish :
    outcome ⟨1, text⟩ (')' :: cs) = (outcome .none cs).cons (')' :: text).reverse := by
  rw [outcome, segmentLine_finish, Segmentation.andThen_cons, outcome]

@[simp] theorem outcome_shallower :
    outcome ⟨d + 2, text⟩ (')' :: cs) = outcome ⟨d + 1, ')' :: text⟩ cs := by
  rw [outcome, segmentLine_shallower, outcome]

theorem outcome_inside (hopen : c ≠ '(') (hclose : c ≠ ')') :
    outcome ⟨d + 1, text⟩ (c :: cs) = outcome ⟨d + 1, c :: text⟩ cs := by
  rw [outcome, segmentLine_inside _ _ _ _ hopen hclose, outcome]

theorem outcome_append (b : OpenBlock) (cs ds : List Char) :
    outcome b (cs ++ ds) = (segmentLine [] b cs).andThen fun b' => outcome b' ds :=
  andThen_segmentLine_append [] cs b ds _

/-- At depth zero nothing is kept of the text in front. -/
theorem outcome_zero (text cs : List Char) : outcome ⟨0, text⟩ cs = outcome .none cs := by
  cases cs with
  | nil => rfl
  | cons c cs => simp only [outcome, OpenBlock.none, segmentLine]

/-- An open block goes on behind a line break as if the line feed were part of its text. -/
theorem outcome_lineFeed (b : OpenBlock) (cs : List Char) :
    outcome b ('\n' :: cs) = outcome b.breakLine cs := by
  obtain ⟨depth, text⟩ := b
  cases depth with
  | zero =>
    have hbreak : OpenBlock.breakLine ⟨0, text⟩ = ⟨0, text⟩ := rfl
    rw [hbreak, outcome_zero text cs, outcome_blank _ _ (by decide)]
  | succ d =>
    have hbreak : OpenBlock.breakLine ⟨d + 1, text⟩ = ⟨d + 1, '\n' :: text⟩ := rfl
    rw [hbreak, outcome_inside _ _ _ (by decide) (by decide)]

/-- Blanks at the end of a text give nothing. -/
theorem outcome_blanks {tail : List Char} (h : ∀ c ∈ tail, Text.isBlank c = true) (b : OpenBlock) :
    outcome b tail = b.atEnd := by
  induction tail generalizing b with
  | nil => rfl
  | cons c tail ih =>
    rw [List.forall_mem_cons] at h
    obtain ⟨depth, text⟩ := b
    cases depth with
    | zero =>
      rw [outcome_blank _ _ h.1, ih h.2]
      rfl
    | succ d =>
      obtain ⟨hopen, hclose⟩ := ne_bracket_of_isBlank h.1
      rw [outcome_inside _ _ _ hopen hclose, ih h.2]
      rfl

theorem outcome_append_blanks {tail : List Char} (h : ∀ c ∈ tail, Text.isBlank c = true)
    (b : OpenBlock) (cs : List Char) : outcome b (cs ++ tail) = outcome b cs := by
  rw [outcome_append, outcome]
  exact congrArg _ (funext (outcome_blanks h))

/-- Whether a character belongs to the end of a line. -/
def isLineEnd (c : Char) : Bool := c == '\r' || c == '\n'

theorem isBlank_of_isLineEnd (h : isLineEnd c = true) : Text.isBlank c = true := by
  rw [isLineEnd, Bool.or_eq_true, beq_iff_eq, beq_iff_eq] at h
  rcases h with rfl | rfl <;> decide

theorem segmentFrom_cons (b : OpenBlock) (l : List Char) (lines : List (List Char)) :
    segmentFrom b (l :: lines) =
      (segmentLine (Text.dropTrailing isLineEnd l) b (Text.dropTrailing isLineEnd l)).andThen
        fun b' => segmentFrom b'.breakLine lines := by
  have hend : (fun c => c == '\r' || c == '\n') = isLineEnd := rfl
  rw [segmentFrom, hend, Segmentation.andThen]
  cases (segmentLine (Text.dropTrailing isLineEnd l) b (Text.dropTrailing isLineEnd l)).final <;> rfl

/-- Lines give what their text gives, each line with a line feed behind it in place of its end. -/
theorem withoutLine_segmentFrom (b : OpenBlock) (lines : List (List Char)) :
    (segmentFrom b lines).withoutLine =
      outcome b (lines.flatMap fun l => Text.dropTrailing isLineEnd l ++ ['\n']) := by
  induction lines generalizing b with
  | nil =>
    obtain ⟨depth, text⟩ := b
    cases depth <;> rfl
  | cons l lines ih =>
    rw [segmentFrom_cons, withoutLine_andThen_segmentLine, List.flatMap_cons, List.append_assoc,
      outcome_append]
    refine congrArg _ (funext fun b' => ?_)
    rw [ih, List.singleton_append, outcome_lineFeed]

theorem dropTrailing_append_takeWhile (p : Char → Bool) (cs : List Char) :
    Text.dropTrailing p cs ++ (cs.reverse.takeWhile p).reverse = cs := by
  rw [Text.dropTrailing, ← List.reverse_append, List.takeWhile_append_dropWhile, List.reverse_reverse]

/-- A text in one line gives what the text gives, whatever ends it. -/
theorem withoutLine_segment_singleton (cs : List Char) :
    (segment [cs]).withoutLine = outcome .none cs := by
  have hend : ∀ c ∈ (cs.reverse.takeWhile isLineEnd).reverse, Text.isBlank c = true := fun c hc =>
    isBlank_of_isLineEnd (List.mem_takeWhile_imp (List.mem_reverse.mp hc))
  rw [segment, withoutLine_segmentFrom, List.flatMap_singleton, outcome_append_blanks (by decide)]
  conv_rhs => rw [← dropTrailing_append_takeWhile isLineEnd cs]
  rw [outcome_append_blanks hend]

theorem dropTrailing_eq_self {p : Char → Bool} {cs : List Char} (h : ∀ c ∈ cs, p c = false) :
    Text.dropTrailing p cs = cs := by
  have hreverse : cs.reverse.dropWhile p = cs.reverse := by
    cases hcs : cs.reverse with
    | nil => rfl
    | cons c ds =>
      have hc : c ∈ cs := List.mem_reverse.mp (hcs ▸ List.mem_cons_self ..)
      rw [List.dropWhile_cons_of_neg (by simp [h c hc])]
  rw [Text.dropTrailing, hreverse, List.reverse_reverse]

/-- Lines that hold no end of a line give what they give with a line feed behind each of them. -/
theorem withoutLine_segmentFrom_of_lines {lines : List (List Char)}
    (hlines : ∀ l ∈ lines, '\r' ∉ l ∧ '\n' ∉ l) (b : OpenBlock) :
    (segmentFrom b lines).withoutLine = outcome b (lines.flatMap (· ++ ['\n'])) := by
  rw [withoutLine_segmentFrom]
  refine congrArg (outcome b) (List.flatMap_congr fun l hl => ?_)
  have hend : ∀ c ∈ l, isLineEnd c = false := by
    intro c hc
    have hreturn : c ≠ '\r' := fun h => (hlines l hl).1 (h ▸ hc)
    have hfeed : c ≠ '\n' := fun h => (hlines l hl).2 (h ▸ hc)
    simp [isLineEnd, hreturn, hfeed]
  rw [dropTrailing_eq_self hend]

theorem flatMap_lineFeed {lines : List (List Char)} (h : lines ≠ []) :
    lines.flatMap (· ++ ['\n']) = ['\n'].intercalate lines ++ ['\n'] := by
  induction lines with
  | nil => exact absurd rfl h
  | cons l lines ih =>
    cases lines with
    | nil => simp
    | cons m lines => simp [ih]

/-- Lines that hold no end of a line give what they give when they are joined by line feeds. -/
theorem withoutLine_segment_of_lines {lines : List (List Char)}
    (hlines : ∀ l ∈ lines, '\r' ∉ l ∧ '\n' ∉ l) :
    (segment lines).withoutLine = outcome .none (['\n'].intercalate lines) := by
  rw [segment, withoutLine_segmentFrom_of_lines hlines]
  cases lines with
  | nil => rfl
  | cons l lines => rw [flatMap_lineFeed (List.cons_ne_nil l lines), outcome_append_blanks (by decide)]

end Constituency.Bracket
