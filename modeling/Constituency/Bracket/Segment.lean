import Constituency.Text.Blank
import Constituency.Text.Quoted

/-!
# Blocks of bracketed text

A treebank is a sequence of bracketed expressions over lines. A block is the text from a bracket
that opens at depth zero to the bracket that returns the depth to zero; its lines are joined by
newlines. Between blocks only blanks may stand. `segment` gives the blocks before the first error,
and the error.
-/
namespace Constituency.Bracket

inductive SegmentError where
  /-- A line with a closing bracket too many. -/
  | unbalanced (line : List Char)
  /-- A line with text outside of brackets. -/
  | outside (line : List Char)
  /-- The number of brackets that are open at the end of the input. -/
  | unclosed (depth : Nat)
  deriving Repr, DecidableEq

def SegmentError.message : SegmentError → String
  | unbalanced line => "unbalanced parentheses: " ++ Text.quoted (String.ofList line)
  | outside line => "text outside of brackets: " ++ Text.quoted (String.ofList line)
  | unclosed depth =>
      "unbalanced parentheses at end of input; " ++ toString depth ++ " brackets not closed"

/-- The bracket depth and the text of the open block, last character first. -/
structure OpenBlock where
  depth : Nat
  text : List Char
  deriving Repr, DecidableEq

def OpenBlock.none : OpenBlock := ⟨0, []⟩

/-- Blocks, and what becomes of the input behind them. -/
structure Segmentation (σ : Type) where
  blocks : List (List Char)
  final : σ
  deriving Repr

def Segmentation.cons {σ : Type} (block : List Char) (s : Segmentation σ) : Segmentation σ :=
  ⟨block :: s.blocks, s.final⟩

/-- The blocks that end among the characters of a line, and the state behind the line. -/
def segmentLine (line : List Char) :
    OpenBlock → List Char → Segmentation (Except SegmentError OpenBlock)
  | b, [] => ⟨[], .ok b⟩
  | ⟨0, _⟩, c :: cs =>
      if c = '(' then segmentLine line ⟨1, ['(']⟩ cs
      else if c = ')' then ⟨[], .error (.unbalanced line)⟩
      else if Text.isBlank c then segmentLine line .none cs
      else ⟨[], .error (.outside line)⟩
  | ⟨d + 1, text⟩, c :: cs =>
      if c = '(' then segmentLine line ⟨d + 2, c :: text⟩ cs
      else if c = ')' then
        if d = 0 then (segmentLine line .none cs).cons (c :: text).reverse
        else segmentLine line ⟨d, c :: text⟩ cs
      else segmentLine line ⟨d + 1, c :: text⟩ cs

/-- An open block goes on behind a line break. -/
def OpenBlock.breakLine (b : OpenBlock) : OpenBlock :=
  if b.depth = 0 then b else ⟨b.depth, '\n' :: b.text⟩

/-- The blocks of lines behind an open block. -/
def segmentFrom (b : OpenBlock) : List (List Char) → Segmentation (Option SegmentError)
  | [] => ⟨[], if b.depth = 0 then none else some (.unclosed b.depth)⟩
  | line :: lines =>
      let line := Text.dropTrailing (fun c => c == '\r' || c == '\n') line
      let s := segmentLine line b line
      match s.final with
      | .error e => ⟨s.blocks, some e⟩
      | .ok b' =>
          let rest := segmentFrom b'.breakLine lines
          ⟨s.blocks ++ rest.blocks, rest.final⟩

/-- The blocks of lines, up to the first error. -/
def segment (lines : List (List Char)) : Segmentation (Option SegmentError) :=
  segmentFrom .none lines

end Constituency.Bracket
