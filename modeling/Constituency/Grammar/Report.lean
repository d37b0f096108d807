import Constituency.Grammar.Basic
import Constituency.Bracket.Printer
import Constituency.Lexicon

/-!
# Grammars as text

A rule is a line of its labels and its score, separated by tabs; a word of a lexicon is a line of
the word and its tags with their counts. The summary of a grammar counts its labels and rules.
-/
namespace Constituency

/-- A number with at most six significant digits. -/
def sixDigits (x : Float) : String := Number.general 6 x

/-- Labels and a score as a line; there is none when a symbol has no label. -/
def ruleLine? (v : Vocabulary) (symbols : List Symbol) (score : Float) : Option String :=
  (symbols.mapM v.label?).map fun labels => "\t".intercalate labels ++ "\t" ++ sixDigits score

namespace Grammar

def lines {ρ : Type} (v : Vocabulary) (symbols : ρ → List Symbol) (score : ρ → Float)
    (rules : List ρ) : String :=
  String.join (rules.map fun r => (ruleLine? v (symbols r) (score r)).getD "" ++ "\n")

/-- The rules of a grammar, binary ones first, each on a line. -/
def rulesText (g : Grammar Float) : String :=
  lines g.vocabulary BinaryRule.symbols (·.score) g.binary ++
    lines g.vocabulary UnaryRule.symbols (·.score) g.unary

/-- The left child with the most binary rules, and their number; of several the greatest symbol. -/
def largestGroup? {σ : Type} (g : Grammar σ) : Option (Nat × Symbol) :=
  g.groups.foldl (fun best x =>
    match best with
    | some (n, _) => if n ≤ x.rules.length then some (x.rules.length, x.left) else best
    | none => some (x.rules.length, x.left)) none

/-- The symbols that are a parent in some rule, each once. -/
def parents {σ : Type} (g : Grammar σ) : List Symbol :=
  (g.binary.map (·.parent) ++ g.unary.map (·.parent)).eraseDups

def summary {σ : Type} (g : Grammar σ) : String :=
  "labels: " ++ toString g.numSymbols ++ " of which preterminals: " ++
    toString (g.numSymbols - g.parents.length) ++ "\nbinary rules: " ++ toString g.binary.length ++
    " unary rules: " ++ toString g.unary.length ++ " left children: " ++ toString g.groups.length ++
    match g.largestGroup? with
    | none => ""
    | some (n, left) =>
        "\nmax rules per left child: " ++ toString n ++ " (" ++
          (g.vocabulary.label? left).getD "" ++ ")"

end Grammar

namespace Lexicon

/-- The order of words in a listing. -/
def wordLE : Word → Word → Bool
  | none, _ => true
  | some _, none => false
  | some a, some b => a ≤ b

/-- The line of a word: its escaped form, and each tag with its count. -/
def wordLine (w : Word) (tags : Tally String) : String :=
  String.ofList (Bracket.escapeWord w) ++
    String.join (tags.entries.map fun e => "\t" ++ e.1 ++ " " ++ toString e.2) ++ "\n"

/-- The words of a lexicon, sorted, each on a line. A gap among other words has no place in the order. -/
def text? (x : Lexicon) : Option String :=
  if 1 < x.wordTags.size && x.wordTags.contains none then none
  else
    let sorted := x.wordTags.entries.mergeSort fun a b => wordLE a.1 b.1
    some (String.join (sorted.map fun e => wordLine e.1 e.2))

end Lexicon

end Constituency
