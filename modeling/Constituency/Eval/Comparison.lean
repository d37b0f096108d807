import Constituency.Bracket.Printer
import Constituency.Eval.Constituents
import Constituency.Eval.Measures
import Constituency.Tree.Traversal

/-!
# Comparing two trees

A candidate tree is compared with the gold tree of the same sentence by constituents and by tags.
The tree that stands for a failure to parse has no constituents, and no tag for any word.
-/
namespace Constituency

/-- The name of a sentence: a number or a text. -/
inductive SentenceKey where
  | number (n : Int)
  | name (s : String)
  deriving Repr, DecidableEq, Hashable

def SentenceKey.text : SentenceKey → String
  | number n => toString n
  | name s => s

/-- A candidate tree beside a gold tree. -/
structure Comparison where
  key : SentenceKey
  words : List Word
  goldTags : List (Word × String)
  goldConstituents : Counts Constituent
  /-- Whether the candidate is a failure to parse. -/
  failed : Bool
  tags : List (Word × Option String)
  constituents : Counts Constituent

inductive ComparisonError where
  /-- The words of the candidate and of the gold tree, which differ. -/
  | mismatch (candidate gold : String)
  /-- Words that differ, with a gap among them. -/
  | missingWord
  deriving Repr, DecidableEq

def ComparisonError.message : ComparisonError → String
  | mismatch candidate gold =>
      "candidate & gold sentences do not match:\n" ++ Text.quoted candidate ++ " // " ++
        Text.quoted gold
  | missingWord => "missing word"

/-- The four percentages of a comparison. -/
structure Scores where
  labeledRecall : String
  labeledPrecision : String
  fMeasure : String
  tagging : String
  deriving Repr, DecidableEq

namespace Comparison

/-- The word that a failure to parse has for its only leaf. -/
def failureWord : Word := some "JUNK"

/-- Compare a candidate tree with a gold tree, leaving out the constituents labeled in `skip`. -/
def ofTrees (key : SentenceKey) (gold candidate : Tree) (skip : List String) :
    Except ComparisonError Comparison :=
  let words := gold.leaves
  if candidate.leaves = [failureWord] ∧ words ≠ [failureWord] then
    .ok ⟨key, words, gold.tagged, gold.constituents skip, true, words.map fun w => (w, none), .empty⟩
  else if candidate.leaves = words then
    .ok ⟨key, words, gold.tagged, gold.constituents skip, false,
      candidate.tagged.map fun p => (p.1, some p.2), candidate.constituents skip⟩
  else
    match Tree.joinWords candidate.leaves, Tree.joinWords words with
    | some c, some g => .error (.mismatch c g)
    | _, _ => .error .missingWord

/-- Whether a word has the same tag twice. -/
def sameTag (gold : Word × String) (candidate : Word × Option String) : Bool :=
  gold.1 == candidate.1 && some gold.2 == candidate.2

/-- The share of the words with the right tag. -/
def tagging (gold : List (Word × String)) (candidate : List (Word × Option String)) :
    Except Measure.AccuracyError String :=
  match Measure.accuracy Decimal sameTag gold candidate with
  | .ok d => .ok (Decimal.percentText (.ok d))
  | .error .lengths => .error .lengths
  | .error (.arithmetic e) => .ok (Decimal.percentText (.error e))

/-- The percentages of two multisets of constituents and two lists of tags. -/
def scoresOf {κ : Type} [DecidableEq κ] [Hashable κ] (gold candidate : Counts κ)
    (goldTags : List (Word × String)) (tags : List (Word × Option String)) :
    Except Measure.AccuracyError Scores := do
  let t ← tagging goldTags tags
  pure
    { labeledRecall := Decimal.percentText (Measure.recallOf Decimal gold candidate)
      labeledPrecision := Decimal.percentText (Measure.precisionOf Decimal gold candidate)
      fMeasure := Decimal.percentText (Measure.fMeasure Decimal gold candidate Decimal.half)
      tagging := t }

def scores (c : Comparison) : Except Measure.AccuracyError Scores :=
  scoresOf c.goldConstituents c.constituents c.goldTags c.tags

def column (width : Nat) (n : Int) : String := Text.padLeft width (toString n)

/-- A text in a number of columns, on the left of them when the number is negative. -/
def keyColumn (width : Int) (s : String) : String :=
  if width < 0 then Text.padRight width.natAbs s else Text.padLeft width.toNat s

/-- The line of a comparison in a report, its key in a number of columns. -/
def line (c : Comparison) (keyWidth : Int) : Except Measure.AccuracyError String := do
  let s ← c.scores
  let correct := (c.goldTags.zip c.tags).countP fun p => sameTag p.1 p.2
  let counts : List Int :=
    [c.goldConstituents.overlap c.constituents, c.goldConstituents.size, c.constituents.size,
      c.words.length, correct]
  pure <| " ".intercalate <|
    [keyColumn keyWidth c.key.text ++ "  " ++ column 5 c.words.length, s.labeledRecall,
      s.labeledPrecision] ++ counts.map (column 6) ++ [s.tagging]

end Comparison

end Constituency
