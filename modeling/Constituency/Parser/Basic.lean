import Constituency.Chart.Derivation
import Constituency.Chart.Fill
import Constituency.Grammar.Induction
import Constituency.Lexicon
import Constituency.Parser.Settings

/-!
# Parsers

A parser is trained on trees: they are binarized, a grammar and a lexicon are read off them, and
the unary rules of the grammar are closed. Parsing a sentence gives its best tree, or the tree
that stands for a failure.
-/
namespace Constituency

structure Parser (σ : Type) where
  settings : Settings
  /-- The number of trees it was trained on. -/
  trainingSize : Nat
  grammar : Grammar σ
  lexicon : Lexicon
  closure : Closure σ

/-- Why trees cannot be trained on. -/
inductive TrainingError (σ : Type) where
  /-- A gap in front of a sibling, which gives no label to the intermediate node behind it. -/
  | gapBeforeSibling
  | grammar (error : GrammarError σ)
  | closure (error : ClosureError)
  deriving Repr

def TrainingError.message : TrainingError Float → String
  | gapBeforeSibling => "missing word in front of a sibling"
  | grammar e => e.message
  | closure e => e.message

inductive ParseError where
  /-- A word that counts as never seen, for which the lexicon has no estimate. -/
  | noEstimate
  | derivation (error : Chart.DerivationError)
  deriving Repr, DecidableEq

structure ParseResult (σ : Type) where
  tree : Tree
  /-- The logarithm of the probability of the tree. -/
  logProbability : σ
  failed : Bool

/-- The outcome of parsing a sentence in words. -/
def ParseResult.message (r : ParseResult Float) : String := Chart.outcomeText r.logProbability

section Scores

variable {σ ρ : Type} [Score σ] [Probability ρ] [LogScale σ ρ]

/-- The probability of the tree, zero for a failure. -/
def ParseResult.probability (r : ParseResult σ) : ρ :=
  if r.failed then Probability.ofNat 0 else LogScale.exp r.logProbability

namespace Parser

/-- Whether a tree is short enough to train on. -/
def isShort (s : Settings) (t : Tree) : Bool :=
  match s.maxLength with
  | none => true
  | some n => n == 0 || (t.leaves.length : Int) ≤ n

def train (settings : Settings) (trees : List Tree) : Except (TrainingError σ) (Parser σ) := do
  let chosen := trees.filter (isShort settings)
  let annotated ← (chosen.mapM Tree.annotate?).elim (.error .gapBeforeSibling) .ok
  let grammar ← (Grammar.induce .empty annotated).mapError .grammar
  let lexicon := Lexicon.ofTrees settings.rareThreshold annotated
  let closure ← (Closure.ofRules? grammar.numSymbols grammar.unary).mapError .closure
  pure ⟨settings, chosen.length, grammar, lexicon, closure⟩

def wordScore (p : Parser σ) (word tag : String) : Except ParseError (Option σ) :=
  match p.lexicon.score? (some word) tag with
  | some s => .ok (some s)
  | none => .error .noEstimate

def chart (p : Parser σ) (sentence : List String) : Except ParseError (Chart σ) :=
  Chart.parse p.grammar p.closure p.wordScore sentence p.settings.root

/-- The result that a filled chart gives. -/
def resultOf (c : Chart σ) : Except ParseError (ParseResult σ) :=
  (c.bestTree.mapError .derivation).map fun t => ⟨t, c.rootScore, !c.hasParse⟩

def parse (p : Parser σ) (sentence : List String) : Except ParseError (ParseResult σ) := do
  resultOf (← p.chart sentence)

/-- Whether the root label of the settings is a symbol of the grammar. -/
def knowsRoot {σ : Type} (p : Parser σ) : Bool :=
  p.grammar.vocabulary.contains p.settings.root

end Parser

end Scores

/-! ## Corpora -/

inductive CorpusError where
  | parse (error : ParseError)
  | write (error : Tree.WriteError)
  deriving Repr, DecidableEq

/-- What parsing a sentence of a corpus leaves behind: its number, its words, the result, and the
text of the tree. -/
structure CorpusEntry (σ : Type) where
  number : Nat
  sentence : List String
  result : ParseResult σ
  output : String
  /-- The binarized tree, when there is a parse. -/
  derivation : Option Tree

/-- The entries in front of the first failure, and the failure. -/
structure CorpusRun (σ : Type) where
  entries : List (CorpusEntry σ)
  error : Option CorpusError

namespace Parser

variable {σ ρ : Type} [Score σ] [Probability ρ] [LogScale σ ρ]

/-- Parse one sentence of a corpus and write its tree. -/
def entry (p : Parser σ) (number : Nat) (sentence : List String) :
    Except CorpusError (CorpusEntry σ) := do
  let c ← (p.chart sentence).mapError .parse
  let result ← (resultOf c).mapError .parse
  let output ← (result.tree.writeAs p.settings.format).mapError .write
  let derivation := match c.hasParse, c.rootSymbol? with
    | true, some x => (c.derive x 0 c.length true).toOption
    | _, _ => none
  pure ⟨number, sentence, result, output, derivation⟩

/-- Parse sentences in order, up to the first failure. -/
def runFrom (p : Parser σ) (number : Nat) : List (List String) → CorpusRun σ
  | [] => ⟨[], none⟩
  | s :: rest =>
      match p.entry number s with
      | .error e => ⟨[], some e⟩
      | .ok x =>
          let more := p.runFrom (number + 1) rest
          ⟨x :: more.entries, more.error⟩

/-- Parse the sentences of a corpus, numbered from one. -/
def run (p : Parser σ) (sentences : List (List String)) : CorpusRun σ := p.runFrom 1 sentences

end Parser

namespace CorpusRun

variable {σ : Type}

/-- The trees of a run, as they are written. -/
def output (r : CorpusRun σ) : String := String.join (r.entries.map (·.output))

/-- The number of sentences without a parse. -/
def unparsed (r : CorpusRun σ) : Nat := r.entries.countP (·.result.failed)

end CorpusRun

end Constituency
