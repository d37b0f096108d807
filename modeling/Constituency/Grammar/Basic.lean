import Constituency.Number.Layout
import Constituency.OrderedMap
import Constituency.Vocabulary

/-!
# Grammars

A binarized grammar has rules with one or two children, each with a score. Symbols are numbers of
a vocabulary. `Grammar.ofRules?` refuses rules with other symbols, and groups the binary rules by
their left child: the groups in ascending order of that child, the rules of a group in their given
order.
-/
namespace Constituency

/-- A symbol: the number of a label, or a number without one. -/
abbrev Symbol := Int

structure BinaryRule (σ : Type) where
  parent : Symbol
  left : Symbol
  right : Symbol
  score : σ
  deriving Repr, DecidableEq

structure UnaryRule (σ : Type) where
  parent : Symbol
  child : Symbol
  score : σ
  deriving Repr, DecidableEq

/-- The symbols of a rule, the parent first. -/
def BinaryRule.symbols {σ : Type} (r : BinaryRule σ) : List Symbol := [r.parent, r.left, r.right]

/-- The symbols of a rule, the parent first. -/
def UnaryRule.symbols {σ : Type} (r : UnaryRule σ) : List Symbol := [r.parent, r.child]

/-- A rule refused for a symbol that is not in the vocabulary. -/
inductive UnknownSymbol (σ : Type) where
  | binary (rule : BinaryRule σ)
  | unary (rule : UnaryRule σ)
  deriving Repr, DecidableEq

def UnknownSymbol.message : UnknownSymbol Float → String
  | binary r =>
      "rule with unknown symbol: BinaryRule(parent=" ++ toString r.parent ++ ", left=" ++
        toString r.left ++ ", right=" ++ toString r.right ++ ", score=" ++
        Number.shortestText r.score ++ ")"
  | unary r =>
      "rule with unknown symbol: UnaryRule(parent=" ++ toString r.parent ++ ", child=" ++
        toString r.child ++ ", score=" ++ Number.shortestText r.score ++ ")"

/-- Binary rules with a common left child. -/
structure LeftGroup (σ : Type) where
  left : Symbol
  rules : List (BinaryRule σ)
  deriving Repr, DecidableEq

/-- A grammar whose rules are ready for parsing. -/
structure Grammar (σ : Type) where
  vocabulary : Vocabulary
  binary : List (BinaryRule σ)
  unary : List (UnaryRule σ)
  groups : List (LeftGroup σ)
  deriving Repr

namespace Grammar

variable {σ : Type}

/-- Whether a symbol has a label. -/
def isSymbol (v : Vocabulary) (a : Symbol) : Bool := 0 ≤ a && a < v.size

/-- The binary rules under their left children, in the order of first occurrence. -/
def collect (rules : List (BinaryRule σ)) : OrderedMap Symbol (List (BinaryRule σ)) :=
  rules.foldl (fun m r => m.alter r.left fun rs => rs.getD [] ++ [r]) OrderedMap.empty

/-- The binary rules in groups, in ascending order of the left child. -/
def groupByLeft (rules : List (BinaryRule σ)) : List (LeftGroup σ) :=
  ((collect rules).entries.mergeSort fun a b => a.1 ≤ b.1).map fun e => ⟨e.1, e.2⟩

/-- The first rule with a symbol outside of the vocabulary, binary rules before unary ones. -/
def unknownSymbol? (v : Vocabulary) (binary : List (BinaryRule σ)) (unary : List (UnaryRule σ)) :
    Option (UnknownSymbol σ) :=
  match binary.find? fun r => !r.symbols.all (isSymbol v) with
  | some r => some (.binary r)
  | none => (unary.find? fun r => !r.symbols.all (isSymbol v)).map .unary

/-- The grammar of a vocabulary and rules over it. -/
def ofRules? (v : Vocabulary) (binary : List (BinaryRule σ)) (unary : List (UnaryRule σ)) :
    Except (UnknownSymbol σ) (Grammar σ) :=
  match unknownSymbol? v binary unary with
  | some e => .error e
  | none => .ok ⟨v, binary, unary, groupByLeft binary⟩

def numSymbols (g : Grammar σ) : Nat := g.vocabulary.size

/-- The left children of binary rules, in ascending order. -/
def leftChildren (g : Grammar σ) : List Symbol := g.groups.map (·.left)

/-- The binary rules with a left child, in their given order. -/
def byLeft (g : Grammar σ) (left : Symbol) : List (BinaryRule σ) :=
  match g.groups.find? (·.left == left) with
  | some group => group.rules
  | none => []

/-- The size of a grammar in words. -/
def display (g : Grammar σ) : String :=
  toString g.numSymbols ++ " symbols, " ++ toString g.binary.length ++ " binary rules, " ++
    toString g.unary.length ++ " unary rules"

end Grammar

end Constituency
