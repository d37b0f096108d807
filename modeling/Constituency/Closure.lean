import Constituency.Grammar.Basic
import Constituency.PairMap
import Constituency.Position
import Constituency.Score
import Std.Data.TreeSet.Lemmas

/-!
# The closure of unary rules

A chain of unary rules leads from a symbol down to another one; its score is the sum of the scores
of its rules. The closure holds the best chain between any two symbols, so that a parser applies
one step in place of a chain. It is computed by admitting the symbols as intermediate ones in
ascending order, and a chain replaces another only when its score is strictly greater. Rules from
a symbol to itself are left out: from every symbol to itself leads the empty chain, with the score
zero.
-/
namespace Constituency

/-- The upper and the lower end of a chain. -/
abbrev Ends := Symbol × Symbol

/-- What is kept of a best chain while better ones are looked for: its score, and if it was put together
out of two chains, the symbol where they meet. -/
structure BestChain (σ : Type) where
  score : σ
  meet : Option Symbol
  deriving Repr, DecidableEq

/-- The best chains found so far, and their ends in the order in which they were found, the last ones in
front. -/
structure BestChains (σ : Type) where
  chains : PairMap (BestChain σ)
  found : List Ends

namespace BestChains

variable {σ : Type} [Score σ]

def empty : BestChains σ := ⟨PairMap.empty, []⟩

def get? (b : BestChains σ) (ends : Ends) : Option (BestChain σ) := b.chains.get? ends

/-- Take a chain in, unless it is not better than the one between the same symbols. -/
def offer (b : BestChains σ) (ends : Ends) (new : BestChain σ) : BestChains σ :=
  match b.get? ends with
  | none => ⟨b.chains.insert ends new, ends :: b.found⟩
  | some old => if Score.lt old.score new.score then ⟨b.chains.insert ends new, b.found⟩ else b

/-- The chains of one rule each, the best rule between two symbols. -/
def ofRules (rules : List (UnaryRule σ)) : BestChains σ :=
  rules.foldl (fun b r =>
    if r.parent = r.child then b else b.offer (r.parent, r.child) ⟨r.score, none⟩) empty

/-- Put a chain together out of one to a symbol, given with its upper end, and one from this symbol, given
with its lower end, when that is an improvement. -/
def join (meet : Symbol) (b : BestChains σ) (upper lower : Symbol × BestChain σ) : BestChains σ :=
  if upper.1 = lower.1 then b
  else b.offer (upper.1, lower.1) ⟨Score.add upper.2.score lower.2.score, some meet⟩

/-- Admit a symbol as an intermediate one: every chain to it is joined with every chain from it. None
of them is replaced by a joined one, since no chain leads from a symbol to itself. -/
def through (b : BestChains σ) (meet : Symbol) : BestChains σ :=
  let lower := b.chains.row meet
  (b.chains.column meet).foldl (fun b u => lower.foldl (join meet · u) b) b

/-- The ends of all chains, in ascending order. -/
def symbols (b : BestChains σ) : List Symbol :=
  (Std.TreeSet.ofList (b.chains.firsts ++ b.chains.seconds)).toList

/-- The best chains over all intermediate symbols. -/
def close (b : BestChains σ) : BestChains σ := b.symbols.foldl through b

/-- Where the two parts of a best chain meet. -/
def meet? (b : BestChains σ) (ends : Ends) : Option Symbol := (b.get? ends).bind (·.meet)

/-- The symbols of a chain from the places where its parts meet: the pending parts in order, and the
symbols listed so far, the last one in front. A chain of more than `limit` symbols is given up. -/
def unfold (b : BestChains σ) (limit : Nat) :
    Nat → List Ends → List Symbol → Option (List Symbol)
  | _, [], chain => some chain.reverse
  | 0, _ :: _, _ => none
  | fuel + 1, ends :: pending, chain =>
      match b.meet? ends with
      | some m => b.unfold limit fuel ((ends.1, m) :: (m, ends.2) :: pending) chain
      | none =>
          if limit < chain.length + 1 then none
          else b.unfold limit fuel pending (ends.2 :: chain)

/-- The symbols of a best chain, unless it comes back to its own parts. A chain without repeated symbols
has at most one symbol more than there are symbols; between two symbols of it, every part is taken
apart at most once. -/
def chainOf? (b : BestChains σ) (numSymbols : Nat) (ends : Ends) : Option (List Symbol) :=
  b.unfold (numSymbols + 1) ((numSymbols + 3) * (b.found.length + 2)) [ends] [ends.1]

end BestChains

inductive ClosureError where
  /-- A chain that cannot be listed, because it comes back to its own parts. -/
  | cyclic (ends : Ends)
  /-- A symbol over one of the grammar that is no number of 64 bits. -/
  | outOfReach
  deriving Repr, DecidableEq

def ClosureError.message : ClosureError → String
  | cyclic ends => "cyclic unary path from " ++ toString ends.1 ++ " to " ++ toString ends.2
  | outOfReach => "symbol out of reach"

/-- A chain of unary rules: its score and its symbols, from the upper to the lower end. -/
structure Chain (σ : Type) where
  score : σ
  symbols : List Symbol
  deriving Repr, DecidableEq

/-- The best chains between all pairs of different symbols. -/
structure Closure (σ : Type) where
  numSymbols : Nat
  chains : PairMap (Chain σ)

namespace Closure

variable {σ : Type}

/-- The best chains with their symbols, in the order in which they were found. -/
def listChains [Score σ] (b : BestChains σ) (numSymbols : Nat) :
    Except ClosureError (PairMap (Chain σ)) :=
  b.found.reverse.foldlM (fun m ends =>
    match b.get? ends, b.chainOf? numSymbols ends with
    | some best, some symbols => .ok (m.insert ends ⟨best.score, symbols⟩)
    | _, _ => .error (.cyclic ends)) PairMap.empty

/-- Whether the upper ends of all chains to symbols of the grammar are numbers of 64 bits. -/
def isWithinReach (c : Closure σ) : Bool :=
  (List.range c.numSymbols).all fun x : Nat => (c.chains.column x).all fun e => isReachable e.1

/-- The closure of unary rules over a number of symbols. -/
def ofRules? [Score σ] (numSymbols : Nat) (rules : List (UnaryRule σ)) :
    Except ClosureError (Closure σ) := do
  let c : Closure σ := ⟨numSymbols, ← listChains (BestChains.ofRules rules).close numSymbols⟩
  if c.isWithinReach then .ok c else .error .outOfReach

/-- Whether a symbol has the empty chain. -/
def hasSymbol (c : Closure σ) (x : Symbol) : Bool := 0 ≤ x && x < c.numSymbols

/-- The symbols of the best chain between two symbols, the ends included; the empty chain shows its
symbol twice. -/
def chain? (c : Closure σ) (parent child : Symbol) : Option (List Symbol) :=
  if parent = child ∧ c.hasSymbol parent then some [parent, child]
  else (c.chains.get? (parent, child)).map (·.symbols)

/-- The score of the best chain between two symbols. -/
def score [Score σ] (c : Closure σ) (parent child : Symbol) : σ :=
  if parent = child ∧ c.hasSymbol parent then Score.zero
  else ((c.chains.get? (parent, child)).map (·.score)).getD Score.bottom

/-- The upper ends of the chains to a symbol, with their scores, in ascending order; the empty chain is
one of them. -/
def parentsOf [Score σ] (c : Closure σ) (child : Nat) : List (Symbol × σ) :=
  if child < c.numSymbols then
    let upper := (c.chains.column child).map fun e => (e.1, e.2.score)
    let smaller (e : Symbol × σ) : Bool := e.1 < child
    upper.takeWhile smaller ++ ((child : Int), Score.zero) :: upper.dropWhile smaller
  else []

/-- The number of chains, the empty ones included. -/
def size (c : Closure σ) : Nat := c.chains.size + c.numSymbols

end Closure

end Constituency
