import Constituency.Bracket.Printer
import Constituency.Grammar.Basic
import Constituency.Probability
import Constituency.Tree.Traversal

/-!
# Grammars read off trees

The productions at the nodes of binarized trees are counted, in order of first occurrence; the
score of a rule is the logarithm of the share that it has in the productions of its parent.
Preterminals have no production, but their labels are numbered with the others.
-/
namespace Constituency

/-- Why trees have no productions to count. -/
inductive InductionError where
  /-- A node with more than two children. -/
  | notBinarized (node : Tree)
  /-- A node without children, or with a leaf that is not its only child. -/
  | mixedChildren (node : Tree)
  deriving Repr, DecidableEq

def InductionError.message : InductionError → String
  | notBinarized t =>
      "tree is not binarized; node with " ++ toString t.children.length ++ " children:\n" ++ t.flatText
  | mixedChildren t =>
      "node should be a preterminal or have only nonterminal children:\n" ++ t.flatText

/-- Counts of productions, of their parents, and the vocabulary of their symbols. -/
structure Productions where
  vocabulary : Vocabulary
  binary : Tally (Symbol × Symbol × Symbol)
  unary : Tally (Symbol × Symbol)
  parents : Tally Symbol

namespace Productions

def start (v : Vocabulary) : Productions := ⟨v, .empty, .empty, .empty⟩

/-- The label of a node, the empty text for a leaf. -/
def labelOf (t : Tree) : String := t.label?.getD ""

def countUnary (p : Productions) (label child : String) : Productions :=
  let a := p.vocabulary.indexOf label
  let b := a.2.indexOf child
  ⟨b.2, p.binary, p.unary.bump (a.1, b.1), p.parents.bump a.1⟩

def countBinary (p : Productions) (label left right : String) : Productions :=
  let a := p.vocabulary.indexOf label
  let b := a.2.indexOf left
  let c := b.2.indexOf right
  ⟨c.2, p.binary.bump (a.1, b.1, c.1), p.unary, p.parents.bump a.1⟩

/-- Number the label of a preterminal. -/
def countTag (p : Productions) (label : String) : Productions :=
  { p with vocabulary := p.vocabulary.add label }

/-- Count the production at a node. -/
def countNode (p : Productions) (t : Tree) : Except InductionError Productions :=
  match t with
  | .node l [.leaf _] => .ok (p.countTag l)
  | .node l [.node m _] => .ok (p.countUnary l m)
  | .node l [.node m _, .node n _] => .ok (p.countBinary l m n)
  | .node l cs =>
      if 2 < cs.length then .error (.notBinarized (.node l cs)) else .error (.mixedChildren (.node l cs))
  | .leaf _ => .ok p

/-- Count the productions of trees, node by node, each before its descendants. -/
def ofTrees (v : Vocabulary) (ts : List Tree) : Except InductionError Productions :=
  (ts.flatMap Tree.nodes).foldlM countNode (start v)

variable {σ : Type}

/-- The rules with two children, scored by the share in the productions of their parent. -/
def binaryRules (p : Productions) (score : Nat → Nat → σ) : List (BinaryRule σ) :=
  p.binary.entries.map fun e =>
    ⟨e.1.1, e.1.2.1, e.1.2.2, score e.2 (p.parents.count e.1.1)⟩

/-- The rules with one child, scored by the share in the productions of their parent. -/
def unaryRules (p : Productions) (score : Nat → Nat → σ) : List (UnaryRule σ) :=
  p.unary.entries.map fun e => ⟨e.1.1, e.1.2, score e.2 (p.parents.count e.1.1)⟩

/-- The grammar of the counted productions. -/
def grammar? (p : Productions) (score : Nat → Nat → σ) : Except (UnknownSymbol σ) (Grammar σ) :=
  Grammar.ofRules? p.vocabulary (p.binaryRules score) (p.unaryRules score)

end Productions

section Scores

variable {σ ρ : Type} [Probability ρ] [LogScale σ ρ]

def logShare (count total : Nat) : σ := LogScale.log (Probability.share ρ count total)

inductive GrammarError (σ : Type) where
  | production (error : InductionError)
  | symbol (error : UnknownSymbol σ)
  deriving Repr

def GrammarError.message : GrammarError Float → String
  | production e => e.message
  | symbol e => e.message

/-- The grammar of trees, its vocabulary extending a given one. -/
def Grammar.induce (v : Vocabulary) (ts : List Tree) : Except (GrammarError σ) (Grammar σ) :=
  match Productions.ofTrees v ts with
  | .error e => .error (.production e)
  | .ok p => (p.grammar? logShare).mapError .symbol

end Scores

end Constituency
