import Constituency.Label
import Constituency.Tree.Basic

/-!
# Markovized binarization

`annotate` lets every node remember its parent and turns a node with several children into a
chain: the first child stands beside an intermediate node over the others, which remembers at most
the last two siblings in front of it; the last intermediate node has one child. `unannotate`
removes the intermediate nodes, their children taking their place, and cuts the annotations off
the labels.
-/
namespace Constituency.Tree

/-- What a subtree contributes to the history of the siblings behind it: its annotated label, or its
word. -/
def siblingLabel (mark : String) : Tree → String
  | leaf w => w.getD ""
  | node l _ => Label.withParent l mark

/-- A chain of intermediate nodes over children, the first of them labeled `history`. Each child comes
with the label that it adds to the history. -/
def chain (history : String) : List (String × Tree) → List Tree
  | [] => []
  | [c] => [node history [c.2]]
  | c :: d :: cs => [node history (c.2 :: chain (Label.extendHistory history c.1) (d :: cs))]

/-- The children of a binarized node labeled `label`. -/
def factor (label : String) : List (String × Tree) → List Tree
  | [] => []
  | [c] => [c.2]
  | c :: d :: cs =>
      c.2 :: chain (Label.extendHistory (Label.emptyHistory label) c.1) (d :: cs)

mutual

/-- A binarized tree below a parent that contributes `mark` to labels. -/
def annotateUnder (mark : String) : Tree → Tree
  | leaf w => leaf w
  | node l cs =>
      let label := Label.withParent l mark
      node label (factor label (annotateAll (Label.parentMark label) cs))

/-- Binarized children with the labels that they add to a history. -/
def annotateAll (mark : String) : List Tree → List (String × Tree)
  | [] => []
  | c :: cs => (siblingLabel mark c, annotateUnder mark c) :: annotateAll mark cs

end

/-- The Markovized, binarized form of a tree. The root has no parent to remember. -/
def annotate : Tree → Tree
  | leaf w => leaf w
  | node l cs => node l (factor l (annotateAll (Label.parentMark l) cs))

mutual

/-- Whether no gap stands in front of a sibling. Only then does every intermediate node have a label. -/
def hasHistories : Tree → Bool
  | leaf _ => true
  | node _ cs => allHaveHistories cs

/-- Whether no gap in a list of children, nor in one of them, stands in front of a sibling. -/
def allHaveHistories : List Tree → Bool
  | [] => true
  | [c] => hasHistories c
  | c :: d :: cs =>
      (match c with
        | leaf none => false
        | _ => hasHistories c) && allHaveHistories (d :: cs)

end

/-- The binarized form of a tree that has one. -/
def annotate? (t : Tree) : Option Tree := if t.hasHistories then some t.annotate else none

mutual

/-- What becomes of a subtree when the nodes with a chosen label are removed: the children of a removed
node take its place. -/
def spliced (p : String → Bool) : Tree → List Tree
  | leaf w => [leaf w]
  | node l cs => if p l then splicedAll p cs else [node l (splicedAll p cs)]

def splicedAll (p : String → Bool) : List Tree → List Tree
  | [] => []
  | c :: cs => spliced p c ++ splicedAll p cs

end

/-- A tree without the nodes that have a chosen label. The root always stays. -/
def splice (p : String → Bool) : Tree → Tree
  | leaf w => leaf w
  | node l cs => node l (splicedAll p cs)

def cutLabels (t : Tree) : Tree := t.mapLabels Label.cut

/-- A tree without intermediate nodes and annotations. -/
def unannotate (t : Tree) : Tree := (t.splice Label.isIntermediate).cutLabels

end Constituency.Tree
