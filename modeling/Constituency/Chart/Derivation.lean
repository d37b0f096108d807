import Constituency.Chart.Basic
import Constituency.Number.Layout
import Constituency.Tree.Binarize

/-!
# Derivations from a chart

The best derivation of a symbol over a span is rebuilt by following where its score comes from. A
chart that was filled always leads to the words; one whose items were changed may refer to items,
chains or places that do not exist, or back to itself.
-/
namespace Constituency.Chart

variable {σ : Type} [Score σ]

inductive DerivationError where
  /-- An item, a word or a label that does not exist. -/
  | place (error : PlaceError)
  /-- A unary score that comes from nowhere. -/
  | noUnary (label : String) (start stop : Int)
  /-- A binary score that comes from nowhere. -/
  | noBinary (label : String) (start stop : Int)
  /-- A unary score that comes from a symbol without a chain to it. -/
  | noChain (parent child : String) (start stop : Int)
  /-- A derivation that contains itself. -/
  | endless
  deriving Repr, DecidableEq

def spanText (start stop : Int) : String := "(" ++ toString start ++ ", " ++ toString stop ++ ")"

def DerivationError.message : DerivationError → String
  | place .missing => "no such item"
  | place .outOfReach => "number out of reach"
  | noUnary label start stop => "no unary backpointer for " ++ label ++ " over " ++ spanText start stop
  | noBinary label start stop =>
      "no binary backpointer for " ++ label ++ " over " ++ spanText start stop
  | noChain parent child start stop =>
      "no unary path from " ++ parent ++ " to " ++ child ++ " over " ++ spanText start stop
  | endless => "endless derivation"

/-- A value that must exist. -/
def need {α : Type} (x : Option α) : Except DerivationError α := x.elim (.error (.place .missing)) .ok

def labelOf (c : Chart σ) (x : Symbol) : Except DerivationError String :=
  need (c.grammar.vocabulary.label? x)

/-- A node over the word at a position. -/
def wordNode (c : Chart σ) (x : Symbol) (start : Int) : Except DerivationError Tree := do
  let label ← c.labelOf x
  let word ← need (itemAt? c.sentence start)
  pure (.node label [.ofWord word])

/-- The symbols of the chain between two symbols, the lower end in front. -/
def chainUp (c : Chart σ) (parent child : Symbol) (start stop : Int) :
    Except DerivationError (List Symbol) :=
  match c.closure.chain? parent child with
  | some chain => .ok chain.reverse
  | none => do .error (.noChain (← c.labelOf parent) (← c.labelOf child) start stop)

/-- Put nodes over a tree, from the lowest one up. -/
def wrap (c : Chart σ) (t : Tree) : List Symbol → Except DerivationError Tree
  | [] => .ok t
  | x :: xs => do c.wrap (.node (← c.labelOf x) [t]) xs

/-- Rebuild a derivation, through at most `fuel` scores on the way down. -/
def deriveUpTo (c : Chart σ) : Nat → Symbol → Int → Int → Bool → Except DerivationError Tree
  | 0, _, _, _, _ => .error .endless
  | fuel + 1, x, start, stop, preferUnary =>
      if stop - start = 1 then do
        let item ← (c.unaryItem start stop x).mapError .place
        match item.back with
        | none => c.wordNode x start
        | some child =>
            if child = x then c.wordNode x start
            else
              match ← c.chainUp x child start stop with
              | [] => .error (.place .missing)
              | low :: above => c.wrap (← c.wordNode low start) above
      else if preferUnary then do
        let item ← (c.unaryItem start stop x).mapError .place
        match item.back with
        | none => .error (.noUnary (← c.labelOf x) start stop)
        | some child =>
            if child = x then c.deriveUpTo fuel x start stop false
            else
              match ← c.chainUp x child start stop with
              | [] => .error (.place .missing)
              | low :: above => c.wrap (← c.deriveUpTo fuel low start stop false) above
      else do
        let item ← (c.binaryItem start stop x).mapError .place
        match item.back with
        | none => .error (.noBinary (← c.labelOf x) start stop)
        | some b =>
            let label ← c.labelOf x
            let left ← c.deriveUpTo fuel b.left start b.position true
            let right ← c.deriveUpTo fuel b.right b.position stop true
            pure (.node label [left, right])

/-- The length of a way down that passes through no score twice, at most. Only scores that come from
somewhere lead on, and the span and the symbol of each can be given in eight ways, since every
position can also be counted from the end. Over a filled chart two steps for each word suffice. -/
def depthBound (c : Chart σ) : Nat := 2 * (c.length + 1) + 8 * c.numBacks

/-- The best derivation of a symbol over a span, from the unary or the binary layer. -/
def derive (c : Chart σ) (x : Symbol) (start stop : Int) (preferUnary : Bool) :
    Except DerivationError Tree :=
  c.deriveUpTo c.depthBound x start stop preferUnary

/-- The leaf of a tree that stands for the failure to parse. -/
def failureWord : String := "JUNK"

def failureTree (root : String) : Tree := .node root [.ofWord failureWord]

/-- The best parse of the sentence without binarization and annotations, or the tree of a failure. -/
def bestTree (c : Chart σ) : Except DerivationError Tree :=
  match c.hasParse, c.rootSymbol? with
  | true, some x => (c.derive x 0 c.length true).map Tree.unannotate
  | _, _ => .ok (failureTree c.root)

/-- The outcome of parsing in words, given the score of the root. -/
def outcomeText (score : Float) : String :=
  if Score.isFinite score then "log prob=" ++ Number.general 6 score else "no parse"

def outcome (c : Chart Float) : String := outcomeText c.rootScore

end Constituency.Chart
