import Constituency.Eval.Counts
import Constituency.Tree.Basic

/-!
# Constituents

A constituent is a label over a span of words. Those of a tree belong to its nodes whose first
child is a node; the span of a node covers the leaves below it. Nodes with certain labels, such as
the root, are left out.
-/
namespace Constituency

/-- A label over the words from one place up to another. -/
structure Constituent where
  label : String
  start : Nat
  stop : Nat
  deriving Repr, DecidableEq, Hashable

namespace Tree

mutual

/-- The constituents of a tree whose first leaf has a given place, those of a node behind those of its
children, and the place behind its last leaf. -/
def constituentsFrom (skip : List String) (start : Nat) : Tree → List Constituent × Nat
  | leaf _ => ([], start + 1)
  | node l cs =>
      let below := constituentsAll skip start cs
      match cs with
      | node _ _ :: _ =>
          if skip.contains l then below else (below.1 ++ [⟨l, start, below.2⟩], below.2)
      | _ => below

/-- The constituents of adjacent trees, and the place behind their last leaf. -/
def constituentsAll (skip : List String) (start : Nat) : List Tree → List Constituent × Nat
  | [] => ([], start)
  | c :: cs =>
      let first := constituentsFrom skip start c
      let rest := constituentsAll skip first.2 cs
      (first.1 ++ rest.1, rest.2)

end

/-- The multiset of the constituents of a tree, without those labeled in `skip`. -/
def constituents (t : Tree) (skip : List String) : Counts Constituent :=
  Counts.ofList (t.constituentsFrom skip 0).1

end Tree

end Constituency
