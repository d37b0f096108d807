import Constituency.Eval.Evaluation
import Constituency.Text.Spaces

/-!
# Evaluating pair by pair

Pairs of trees are entered one after the other. A pair of trees for different sentences changes nothing. Any
other pair is added to the evaluation; only then a line for it is made, if there are lines, and this may fail.
-/
namespace Constituency

inductive EntryError where
  | comparison (error : ComparisonError)
  | tagging (error : Measure.AccuracyError)
  /-- The number of columns for a key is out of reach. -/
  | width
  deriving Repr, DecidableEq

def EntryError.message : EntryError → String
  | comparison e => e.message
  | tagging e => e.message
  | width => "width too big"

structure Entry where
  comparison : Comparison
  line : Option String

/-- How pairs of trees are compared and printed. -/
structure Evaluator where
  /-- The labels of the constituents that are left out. -/
  skip : List String
  /-- The number of columns for the key of a sentence. -/
  keyWidth : Int
  /-- Whether there is a line for each pair. -/
  verbose : Bool

namespace Evaluator

/-- What is printed before the first pair of trees. -/
def heading (v : Evaluator) : Except Text.SpacesError (List String) :=
  if v.verbose then Evaluation.checkedHeader v.keyWidth else .ok []

/-- The line of a comparison. Its scores come first; then its key is put into columns. -/
def line (v : Evaluator) (c : Comparison) : Except EntryError String := do
  let _ ← c.scores.mapError .tagging
  if isReachable v.keyWidth.natAbs then (c.line v.keyWidth).mapError .tagging else .error .width

def entry (v : Evaluator) (c : Comparison) : Except EntryError Entry :=
  if v.verbose then (v.line c).map fun s => ⟨c, some s⟩ else .ok ⟨c, none⟩

/-- Enter a pair of trees: the evaluation after it, and what is gained. -/
def enter (v : Evaluator) (e : Evaluation) (key : SentenceKey) (gold candidate : Tree) :
    Evaluation × Except EntryError Entry :=
  match e.compare key gold candidate v.skip with
  | .error err => (e, .error (.comparison err))
  | .ok (sum, c) => (sum, v.entry c)

end Evaluator

end Constituency
