import Constituency.Bracket.Reader
import Constituency.Value

/-!
# Nodes from data without a type

A tree is built from a label and its children, or from a text in bracket notation alone. A label
beside children is taken as it is, whatever it holds; children must be a collection, of which a
text is none.
-/
namespace Constituency

/-- A node whose label and children have not been checked. -/
structure LooseNode where
  label : Value
  children : List Value

inductive ConstructError where
  /-- Something other than a text in place of bracket notation. -/
  | notAText (given : Value)
  /-- Children that are no collection. -/
  | notACollection
  /-- Children without items, beside no label. -/
  | noItems (given : Value)
  /-- Neither a label nor children. -/
  | nothing
  | read (error : Bracket.ReadError)

def ConstructError.message : ConstructError → String
  | notAText given =>
      "Tree: Expected a label and child list or a single string; got: <class '" ++ given.kind ++ "'>"
  | notACollection => "Tree() argument 2 should be a list, not a string"
  | noItems given => "'" ++ given.kind ++ "' object is not iterable"
  | nothing => "no label"
  | read e => e.message

/-- What is built from data: a tree read from a text, or a node as it was given. -/
inductive Construction where
  | tree (t : Tree)
  | loose (n : LooseNode)

namespace Construction

/-- The items of a collection: those of a list, or the names of the fields of a record. -/
def items? : Value → Option (List Value)
  | .list items => some items
  | .record fields => some (fields.map fun f => .text f.1)
  | _ => none

/-- The items of a collection, or the characters of a text. -/
def itemsOrChars? : Value → Option (List Value)
  | .text s => some (s.toList.map fun c => .text (String.singleton c))
  | v => items? v

/-- Build a node from a label and, if there are any, children. -/
def ofValues (label : Value) (children : Option Value) : Except ConstructError Construction :=
  match label, children with
  | .null, none => .error .nothing
  | .null, some cs =>
      match itemsOrChars? cs with
      | some items => .ok (.loose ⟨.null, items⟩)
      | none => .error (.noItems cs)
  | .text s, none => ((Tree.read s).mapError .read).map .tree
  | l, none => .error (.notAText l)
  | l, some cs =>
      match items? cs with
      | some items => .ok (.loose ⟨l, items⟩)
      | none => .error .notACollection

end Construction

end Constituency
