import Constituency.Position
import Constituency.Tree.Basic

/-!
# Editing trees

Children are addressed by position. `modifyAt` applies a change to the node at the end of a path of
positions. To put a child in or to take one out, a position must be a number of 64 bits.
-/
namespace Constituency

/-- Why an edit or a query of a tree has no result. -/
inductive EditError where
  /-- A position that names no item. -/
  | noSuchItem
  /-- A position that is no number of 64 bits. -/
  | outOfReach
  /-- An operation that leaves do not have. -/
  | notANode
  /-- An operation that the kind of value at the end of the path does not have. -/
  | wrongKind
  deriving Repr, DecidableEq

namespace Tree

def editChildren (f : List Tree → Except EditError (List Tree)) : Tree → Except EditError Tree
  | leaf _ => .error .notANode
  | node l cs => (f cs).map (node l)

def append (child : Tree) : Tree → Except EditError Tree :=
  editChildren fun cs => .ok (cs ++ [child])

def extend (more : List Tree) : Tree → Except EditError Tree :=
  editChildren fun cs => .ok (cs ++ more)

/-- Put a child before a position. -/
def insert (i : Int) (child : Tree) : Tree → Except EditError Tree :=
  editChildren fun cs =>
    let k := insertPosition cs.length i
    if isReachable i then .ok (cs.take k ++ child :: cs.drop k) else .error .outOfReach

def setChild (i : Int) (child : Tree) : Tree → Except EditError Tree
  | leaf _ => .error .wrongKind
  | node l cs =>
      match position? cs.length i with
      | some k => .ok (node l (cs.set k child))
      | none => .error .noSuchItem

def remove (i : Int) : Tree → Except EditError Tree
  | leaf _ => .error .wrongKind
  | node l cs =>
      match position? cs.length i with
      | some k => .ok (node l (cs.eraseIdx k))
      | none => .error .noSuchItem

/-- The child at a position and the tree without it. -/
def pop (i : Int) : Tree → Except EditError (Tree × Tree)
  | leaf _ => .error .notANode
  | node l cs =>
      match position? cs.length i with
      | some k =>
          match cs[k]? with
          | some c => .ok (c, node l (cs.eraseIdx k))
          | none => .error .noSuchItem
      | none => .error (if isReachable i then .noSuchItem else .outOfReach)

def relabel (label : String) : Tree → Except EditError Tree
  | leaf _ => .error .notANode
  | node _ cs => .ok (node label cs)

/-- The child at a position. The items of a word are its characters; a gap has no items. -/
def child (t : Tree) (i : Int) : Except EditError Tree :=
  match t with
  | node _ cs => (itemAt? cs i).elim (.error .noSuchItem) .ok
  | leaf (some w) =>
      (itemAt? w.toList i).elim (.error .noSuchItem) fun c => .ok (ofWord (String.singleton c))
  | leaf none => .error .wrongKind

/-- The subtree at the end of a path of positions. -/
def at? (t : Tree) : List Int → Except EditError Tree
  | [] => .ok t
  | i :: path => do (← t.child i).at? path

/-- Apply a change at the end of a path of positions. -/
def modifyAt (f : Tree → Except EditError Tree) : List Int → Tree → Except EditError Tree
  | [], t => f t
  | i :: path, t => do
      let c ← t.child i
      let c' ← modifyAt f path c
      setChild i c' t

end Tree

end Constituency
