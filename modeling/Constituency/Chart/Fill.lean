import Constituency.Chart.Basic

/-!
# Filling a chart

Spans are filled from short to long, and from left to right. Over one word the unary layer starts
from the scores of its tags. Over a longer span the binary layer collects every rule over every
split of the span, in order of split, left child and rule; the unary layer starts empty. Then the
closure of the unary rules is applied to the scores of the layer below, symbol by symbol.
-/
namespace Constituency.Chart

variable {σ : Type} [Score σ]

/-- What the rules of a group derive from scores over two adjacent spans. -/
def groupCandidates (split : Nat) (left : Layer σ Symbol) (right : Layer σ Symbol) (g : LeftGroup σ) :
    List (Candidate σ Split) :=
  g.rules.map fun r =>
    ⟨r.parent, Score.add (Score.add r.score (left.score g.left)) (right.score r.right),
      ⟨split, g.left, r.right, r.parent⟩⟩

/-- Collect the binary rules over one split, the unary layers of the two parts being given. Only left
children that can be derived are tried. -/
def combine (groups : List (LeftGroup σ)) (split : Nat) (left right : Layer σ Symbol)
    (l : Layer σ Split) : Layer σ Split :=
  groups.foldl (fun l g =>
    if Score.isFinite (left.score g.left) then l.relaxAll (groupCandidates split left right g)
    else l) l

/-- What the closure derives from a score of a symbol. -/
def closureCandidates (closure : Closure σ) (child : Nat) (score : σ) :
    List (Candidate σ Symbol) :=
  (closure.parentsOf child).map fun p => ⟨p.1, Score.add p.2 score, child⟩

/-- Apply the closure to the scores that can be derived, in ascending order of symbols. -/
def applyClosure (closure : Closure σ) (numSymbols : Nat) (source : Symbol → σ)
    (l : Layer σ Symbol) : Layer σ Symbol :=
  (List.range numSymbols).foldl (fun l (child : Nat) =>
    let score := source child
    if Score.isFinite score then l.assignAll (closureCandidates closure child score) else l) l

/-- The unary layer over one word before the closure: the scores of its tags. -/
def tagLayer (scores : List σ) : Layer σ Symbol := (scores.map fun s => ⟨s, none⟩).toArray

def wordCell (c : Chart σ) (scores : List σ) : Cell σ :=
  let tags := tagLayer scores
  ⟨applyClosure c.closure c.grammar.numSymbols (tags.score ·) tags, Layer.empty c.grammar.numSymbols⟩

def binaryLayer (c : Chart σ) (start stop : Nat) : Layer σ Split :=
  (List.range' (start + 1) (stop - start - 1)).foldl (fun l split =>
    combine c.grammar.groups split (c.cell start split).unary (c.cell split stop).unary l)
    (Layer.empty c.grammar.numSymbols)

def spanCell (c : Chart σ) (start stop : Nat) : Cell σ :=
  let binary := c.binaryLayer start stop
  ⟨applyClosure c.closure c.grammar.numSymbols (binary.score ·) (Layer.empty c.grammar.numSymbols),
    binary⟩

/-- The spans of a sentence, from short to long and from left to right. -/
def spans (n : Nat) : List (Nat × Nat) :=
  (List.range' 1 n).flatMap fun width =>
    (List.range (n + 1 - width)).map fun start => (start, start + width)

/-- Fill the cell over a span, given the scores of the tags of each word. -/
def fillSpan (tags : List (List σ)) (c : Chart σ) (span : Nat × Nat) : Chart σ :=
  c.setCell span.1 span.2 <|
    if span.2 = span.1 + 1 then c.wordCell (tags.getD span.1 [])
    else c.spanCell span.1 span.2

/-- The chart of a sentence, given the scores of the tags of each word. -/
def fill (grammar : Grammar σ) (closure : Closure σ) (sentence : List String) (root : String)
    (tags : List (List σ)) : Chart σ :=
  (spans sentence.length).foldl (fillSpan tags) (empty grammar closure sentence root)

/-- The score of a tag; only scores of what can be derived count. -/
def tagScore (score : Option σ) : σ :=
  match score with
  | some s => if Score.isFinite s then s else Score.bottom
  | none => Score.bottom

/-- The scores of all tags of each word, as a lexicon gives them. -/
def tagScores {ε : Type} (v : Vocabulary) (lexicon : String → String → Except ε (Option σ))
    (sentence : List String) : Except ε (List (List σ)) :=
  sentence.mapM fun w => v.labels.toList.mapM fun tag => (lexicon w tag).map tagScore

/-- Parse a sentence with a grammar, the closure of its unary rules and a lexicon, which may give up
instead of giving a score. -/
def parse {ε : Type} (grammar : Grammar σ) (closure : Closure σ)
    (lexicon : String → String → Except ε (Option σ)) (sentence : List String) (root : String) :
    Except ε (Chart σ) :=
  (tagScores grammar.vocabulary lexicon sentence).map (fill grammar closure sentence root)

end Constituency.Chart
