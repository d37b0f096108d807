import Constituency.Tree.Basic

/-!
# Traversals

The nodes of a tree, parents first (`subtrees`) or last (`postorder`), each restricted to the
nodes that satisfy a condition. Both work through an agenda of pending trees, the next one in
front; in the second a node comes back after its children, marked as entered. `preorder` and
`childrenFirst` say recursively which order is meant.
-/
namespace Constituency.Tree

/-- The nodes of the trees of an agenda that satisfy a condition, each before its descendants. -/
def subtreesFrom (p : Tree → Bool) : List Tree → List Tree
  | [] => []
  | leaf _ :: agenda => subtreesFrom p agenda
  | node l cs :: agenda =>
      let rest := subtreesFrom p (cs ++ agenda)
      if p (node l cs) then node l cs :: rest else rest
termination_by agenda => sizeAll agenda
decreasing_by
  · simp [sizeAll, size]
  · simp [sizeAll, size]

/-- The nodes of a tree that satisfy a condition, each before its descendants, left to right. -/
def subtrees (t : Tree) (p : Tree → Bool) : List Tree := subtreesFrom p [t]

/-- All nodes of a tree, each before its descendants, left to right. -/
def nodes (t : Tree) : List Tree := t.subtrees fun _ => true

/-- A pending tree of the bottom-up traversal: to be entered, or to be listed. -/
structure Pending where
  entered : Bool
  tree : Tree

/-- The work left for a pending tree. -/
def Pending.work (x : Pending) : Nat := if x.entered then 1 else 2 * x.tree.size

/-- The work left for an agenda. -/
def workAll : List Pending → Nat
  | [] => 0
  | x :: agenda => x.work + workAll agenda

theorem workAll_append (xs ys : List Pending) : workAll (xs ++ ys) = workAll xs + workAll ys := by
  induction xs with
  | nil => simp [workAll]
  | cons x xs ih => simp [workAll, ih, Nat.add_assoc]

/-- Trees that are still to be entered. -/
def toEnter (cs : List Tree) : List Pending := cs.map (Pending.mk false)

theorem workAll_toEnter (cs : List Tree) : workAll (toEnter cs) = 2 * sizeAll cs := by
  induction cs with
  | nil => rfl
  | cons c cs ih =>
      simp only [workAll, toEnter, List.map_cons, Pending.work, sizeAll] at ih ⊢
      simp only [Bool.false_eq_true, if_false]
      omega

/-- The nodes of the trees of an agenda that satisfy a condition, each after its descendants. -/
def postorderFrom (p : Tree → Bool) : List Pending → List Tree
  | [] => []
  | ⟨_, leaf _⟩ :: agenda => postorderFrom p agenda
  | ⟨false, node l cs⟩ :: agenda =>
      postorderFrom p (toEnter cs ++ ⟨true, node l cs⟩ :: agenda)
  | ⟨true, node l cs⟩ :: agenda =>
      if p (node l cs) then node l cs :: postorderFrom p agenda else postorderFrom p agenda
termination_by agenda => workAll agenda
decreasing_by
  · simp only [workAll, Pending.work, size]; split <;> omega
  · rw [workAll_append, workAll_toEnter]
    simp only [workAll, Pending.work, size, if_true, Bool.false_eq_true, if_false]
    omega
  · simp [workAll, Pending.work]
  · simp [workAll, Pending.work]

/-- The nodes of a tree that satisfy a condition, each after its descendants, left to right. -/
def postorder (t : Tree) (p : Tree → Bool) : List Tree := postorderFrom p [⟨false, t⟩]

mutual

/-- All nodes, each before its descendants, by recursion on the tree. -/
def preorder : Tree → List Tree
  | leaf _ => []
  | node l cs => node l cs :: preorderAll cs

def preorderAll : List Tree → List Tree
  | [] => []
  | c :: cs => preorder c ++ preorderAll cs

end

mutual

/-- All nodes, each after its descendants, by recursion on the tree. -/
def childrenFirst : Tree → List Tree
  | leaf _ => []
  | node l cs => childrenFirstAll cs ++ [node l cs]

def childrenFirstAll : List Tree → List Tree
  | [] => []
  | c :: cs => childrenFirst c ++ childrenFirstAll cs

end

/-- The word and the label of each preterminal, left to right. -/
def tagged (t : Tree) : List (Word × String) :=
  (t.subtrees isPreterminal).filterMap fun
    | node l [leaf w] => some (w, l)
    | _ => none

end Constituency.Tree
