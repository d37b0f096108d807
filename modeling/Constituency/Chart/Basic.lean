import Constituency.Closure

/-!
# Charts

A chart holds, for every span of a sentence and every symbol, the best score of the symbol over
the span, in two layers: below a rule with two children (`binary`), and after the closure of unary
rules has been applied to that (`unary`), which over one word starts from its tags. Each score
remembers how it was obtained. A score is replaced only by a strictly greater one, so among equals
the first one stays.
-/
namespace Constituency

/-- A score and where it comes from; a score given to a tag of a word comes from nowhere. -/
structure Item (σ β : Type) where
  score : σ
  back : Option β
  deriving Repr

/-- Where the score of a binary rule comes from: the place where the span is split, and the rule. -/
structure Split where
  position : Int
  left : Symbol
  right : Symbol
  parent : Symbol
  deriving Repr, DecidableEq

/-- The items of all symbols over a span. -/
abbrev Layer (σ β : Type) := Array (Item σ β)

/-- A score that a symbol can have, and where it comes from. -/
structure Candidate (σ β : Type) where
  symbol : Symbol
  score : σ
  back : β

namespace Layer

variable {σ β : Type} [Score σ]

def empty (numSymbols : Nat) : Layer σ β := Array.replicate numSymbols ⟨Score.bottom, none⟩

/-- The item of a symbol; nothing has been found for what is none. -/
def item (l : Layer σ β) (k : Nat) : Item σ β := l.getD k ⟨Score.bottom, none⟩

/-- The score of a symbol. -/
def score (l : Layer σ β) (x : Symbol) : σ :=
  match l[x.toNat]? with
  | some item => item.score
  | none => Score.bottom

/-- Write a candidate over the item of its symbol. -/
def assign (l : Layer σ β) (c : Candidate σ β) : Layer σ β :=
  l.setIfInBounds c.symbol.toNat ⟨c.score, some c.back⟩

/-- Whether a candidate is strictly greater than the item of its symbol. -/
def beats (l : Layer σ β) (c : Candidate σ β) : Bool := Score.lt (l.score c.symbol) c.score

/-- Take a candidate if it is an improvement. -/
def relax (l : Layer σ β) (c : Candidate σ β) : Layer σ β := if l.beats c then l.assign c else l

/-- Take the improvements out of several candidates: all of them are compared with the layer as it is,
and those that remain again, one after the other, since two of them may be for one symbol. -/
def relaxAll (l : Layer σ β) (cs : List (Candidate σ β)) : Layer σ β :=
  (cs.filter l.beats).foldl relax l

/-- Take the improvements out of candidates for distinct symbols. -/
def assignAll (l : Layer σ β) (cs : List (Candidate σ β)) : Layer σ β :=
  (cs.filter l.beats).foldl assign l

end Layer

/-- Both layers over a span. -/
structure Cell (σ : Type) where
  unary : Layer σ Symbol
  binary : Layer σ Split

def Cell.empty {σ : Type} [Score σ] (numSymbols : Nat) : Cell σ :=
  ⟨Layer.empty numSymbols, Layer.empty numSymbols⟩

/-- A chart over a sentence. The cells are those of all pairs of places between words. -/
structure Chart (σ : Type) where
  sentence : List String
  grammar : Grammar σ
  closure : Closure σ
  root : String
  cells : Array (Cell σ)

namespace Chart

variable {σ : Type} [Score σ]

def empty (grammar : Grammar σ) (closure : Closure σ) (sentence : List String) (root : String) :
    Chart σ :=
  ⟨sentence, grammar, closure, root,
    Array.replicate ((sentence.length + 1) * (sentence.length + 1)) (Cell.empty grammar.numSymbols)⟩

def length (c : Chart σ) : Nat := c.sentence.length

/-- The place of a cell. -/
def index (c : Chart σ) (start stop : Nat) : Nat := start * (c.length + 1) + stop

def cell (c : Chart σ) (start stop : Nat) : Cell σ :=
  c.cells.getD (c.index start stop) (Cell.empty c.grammar.numSymbols)

def setCell (c : Chart σ) (start stop : Nat) (new : Cell σ) : Chart σ :=
  { c with cells := c.cells.setIfInBounds (c.index start stop) new }

/-- The symbol of the root, if it has one. -/
def rootSymbol? (c : Chart σ) : Option Symbol := (c.grammar.vocabulary.find? c.root).map Int.ofNat

/-- Where an item of a chart is: between two gaps of the sentence, for a symbol. -/
structure Place where
  start : Nat
  stop : Nat
  symbol : Nat
  deriving Repr, DecidableEq

/-- The place of the item of a symbol over a span, both given by positions. -/
def place (c : Chart σ) (start stop : Int) (x : Symbol) : Except PlaceError Place :=
  match position? (c.length + 1) start, position? (c.length + 1) stop,
      position? c.grammar.numSymbols x with
  | some i, some j, some k => .ok ⟨i, j, k⟩
  | _, _, _ => .error (.ofNumbers [start, stop, x])

/-- Within a sentence the places of all symbols are those of the same numbers. -/
theorem place_natCast {τ : Type} (c : Chart τ) {i j k : Nat} (hi : i ≤ c.length) (hj : j ≤ c.length)
    (hk : k < c.grammar.numSymbols) : c.place i j k = .ok ⟨i, j, k⟩ := by
  simp only [place, position?_natCast (Nat.lt_succ_of_le hi), position?_natCast (Nat.lt_succ_of_le hj),
    position?_natCast hk]

/-- The item of a symbol in the unary layer over a span. -/
def unaryItem (c : Chart σ) (start stop : Int) (x : Symbol) : Except PlaceError (Item σ Symbol) :=
  (c.place start stop x).map fun p => (c.cell p.start p.stop).unary.item p.symbol

/-- The item of a symbol in the binary layer over a span. -/
def binaryItem (c : Chart σ) (start stop : Int) (x : Symbol) : Except PlaceError (Item σ Split) :=
  (c.place start stop x).map fun p => (c.cell p.start p.stop).binary.item p.symbol

/-- The score of a symbol over a span; what is no symbol has no derivation. There is no score over a
span outside of the sentence. -/
def score (c : Chart σ) (x : Option Symbol) (start stop : Int) (preferUnary : Bool) :
    Except PlaceError σ :=
  match x with
  | none => .ok Score.bottom
  | some x =>
      if 0 ≤ x ∧ x < c.grammar.numSymbols then
        if preferUnary then (c.unaryItem start stop x).map (·.score)
        else (c.binaryItem start stop x).map (·.score)
      else .ok Score.bottom

def rootScore (c : Chart σ) : σ :=
  match c.rootSymbol? with
  | some x => (c.cell 0 c.length).unary.score x
  | none => Score.bottom

/-- Whether the root derives the sentence. -/
def hasParse (c : Chart σ) : Bool := Score.isFinite c.rootScore

/-- The number of items in both layers that can be derived. -/
def numItems (c : Chart σ) : Nat :=
  c.cells.toList.foldr (fun cell sum =>
    (cell.unary.toList.countP fun item => Score.isFinite item.score) +
      (cell.binary.toList.countP fun item => Score.isFinite item.score) + sum) 0

/-- The number of items in both layers whose scores come from somewhere. -/
def numBacks (c : Chart σ) : Nat :=
  c.cells.toList.foldr (fun cell sum =>
    (cell.unary.toList.countP fun item => item.back.isSome) +
      (cell.binary.toList.countP fun item => item.back.isSome) + sum) 0

/-! ## Changing single items -/

/-- Change the cell in which an item is. -/
def modifyCell (c : Chart σ) (p : Place) (f : Cell σ → Cell σ) : Chart σ :=
  c.setCell p.start p.stop (f (c.cell p.start p.stop))

/-- Let a score of the unary layer come from another symbol, or from nowhere. -/
def setUnaryBack (c : Chart σ) (start stop : Int) (x : Symbol) (back : Option Symbol) :
    Except PlaceError (Chart σ) :=
  (c.place start stop x).map fun p => c.modifyCell p fun cell =>
    { cell with unary := cell.unary.modify p.symbol fun item => { item with back := back } }

/-- Let a score of the binary layer come from another split, or from nowhere. -/
def setBinaryBack (c : Chart σ) (start stop : Int) (x : Symbol) (back : Option Split) :
    Except PlaceError (Chart σ) :=
  (c.place start stop x).map fun p => c.modifyCell p fun cell =>
    { cell with binary := cell.binary.modify p.symbol fun item => { item with back := back } }

def setUnaryScore (c : Chart σ) (start stop : Int) (x : Symbol) (score : σ) :
    Except PlaceError (Chart σ) :=
  (c.place start stop x).map fun p => c.modifyCell p fun cell =>
    { cell with unary := cell.unary.modify p.symbol fun item => { item with score := score } }

def display (c : Chart σ) : String :=
  "DenseCFGChart(" ++ Text.quotedList c.sentence ++ ", root=" ++ Text.quoted c.root ++ ")"

end Chart

end Constituency
