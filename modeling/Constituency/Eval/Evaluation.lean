import Constituency.Eval.Comparison

/-!
# Evaluating a corpus

The comparisons of a corpus are pooled: their constituents are counted together, each under the
key of its sentence, and their tags are compared as one sequence. The report has a line for each
comparison and a summary.
-/
namespace Constituency

/-- What the comparisons of a corpus add up to. -/
structure Evaluation where
  sentences : Nat
  longest : Nat
  /-- The number of candidates with all the constituents of the gold tree and no others. -/
  exact : Nat
  failures : Nat
  gold : Counts (SentenceKey × Constituent)
  candidate : Counts (SentenceKey × Constituent)
  goldTags : List (Word × String)
  tags : List (Word × Option String)

structure CorpusScores where
  scores : Scores
  exact : String
  deriving Repr, DecidableEq

namespace Evaluation

def empty : Evaluation := ⟨0, 0, 0, 0, .empty, .empty, [], []⟩

def add (e : Evaluation) (c : Comparison) : Evaluation where
  sentences := e.sentences + 1
  longest := max e.longest c.words.length
  exact := if c.constituents.same c.goldConstituents && !c.failed then e.exact + 1 else e.exact
  failures := if c.failed then e.failures + 1 else e.failures
  gold := e.gold.addAll (fun b => (c.key, b)) c.goldConstituents
  candidate := e.candidate.addAll (fun b => (c.key, b)) c.constituents
  goldTags := e.goldTags ++ c.goldTags
  tags := e.tags ++ c.tags

/-- The share of the candidates without any difference. -/
def exactText (e : Evaluation) : String :=
  Decimal.percentText (Measure.quotient Decimal e.exact e.sentences)

def scores (e : Evaluation) : Except Measure.AccuracyError CorpusScores := do
  let s ← Comparison.scoresOf e.gold e.candidate e.goldTags e.tags
  pure ⟨s, e.exactText⟩

def summaryLines (e : Evaluation) (s : CorpusScores) : List String := [
  "__________ Summary (ALL) __________",
  "number of sentences:       " ++ Comparison.column 6 e.sentences,
  "longest sentence:          " ++ Comparison.column 6 e.longest,
  "gold brackets:             " ++ Comparison.column 6 e.gold.size,
  "cand. brackets:            " ++ Comparison.column 6 e.candidate.size,
  "labeled recall:            " ++ s.scores.labeledRecall,
  "labeled precision:         " ++ s.scores.labeledPrecision,
  "labeled f-measure:         " ++ s.scores.fMeasure,
  "exact match:               " ++ s.exact,
  "pos accuracy:              " ++ s.scores.tagging,
  "no parses:                 " ++ Comparison.column 6 e.failures]

/-- The summary of a corpus, if its percentages can be computed. -/
def summary (e : Evaluation) : Except Measure.AccuracyError String :=
  e.scores.map fun s => "\n".intercalate (e.summaryLines s)

/-- The lines above the comparisons, for a default width of four columns of the keys. -/
def headings : List String := [
  "",
  "   Sentence                 Matched   Brackets            Corr   POS",
  "  ID Length  Recall  Precis Bracket   gold   cand  Words  POS  Accur."]

/-- The number of columns of the rule below the headings. -/
def ruleWidth (keyWidth : Int) : Int := keyWidth - 5 + (headings.getLastD "").length

/-- The lines above the comparisons, for a width of the keys, and a rule below them. -/
def header (keyWidth : Int) : List String :=
  (headings.map fun h => Text.spaces (keyWidth - 4).toNat ++ h) ++
    [" " ++ String.ofList (List.replicate (ruleWidth keyWidth).toNat '_')]

/-- The lines above the comparisons, if so many columns can be made. -/
def checkedHeader (keyWidth : Int) : Except Text.SpacesError (List String) := do
  Text.checkSpaces (keyWidth - 4)
  Text.checkSpaces (ruleWidth keyWidth)
  pure (header keyWidth)

/-- Compare two trees and add the comparison. When the sentences differ nothing is added. -/
def compare (e : Evaluation) (key : SentenceKey) (gold candidate : Tree) (skip : List String) :
    Except ComparisonError (Evaluation × Comparison) :=
  (Comparison.ofTrees key gold candidate skip).map fun c => (e.add c, c)

end Evaluation

end Constituency
