/-!
# Constituency trees

A tree is a leaf, which holds a word, or a node with a label and an ordered list of subtrees. A
leaf may also hold no word: such a gap counts as a leaf and has the empty text. A node may have
any number of children, and leaves may stand beside subtrees.
-/
namespace Constituency

/-- What a leaf holds: a word, or no word at all. -/
abbrev Word := Option String

/-- A labeled, ordered tree with words at its leaves. -/
inductive Tree where
  | leaf (word : Word)
  | node (label : String) (children : List Tree)
  deriving Inhabited, Repr

namespace Tree

abbrev ofWord (w : String) : Tree := leaf (some w)

mutual

/-- Equality of trees: equal labels and equal children, in order. -/
def eq : Tree → Tree → Bool
  | leaf v, leaf w => v == w
  | node l cs, node m ds => l == m && eqAll cs ds
  | _, _ => false

def eqAll : List Tree → List Tree → Bool
  | [], [] => true
  | c :: cs, d :: ds => eq c d && eqAll cs ds
  | _, _ => false

end

instance : BEq Tree := ⟨eq⟩

mutual

theorem eq_of_eq_true : ∀ {t u : Tree}, t.eq u = true → t = u
  | leaf v, leaf w, h => by simpa [eq] using h
  | node l cs, node m ds, h => by
      simp only [eq, Bool.and_eq_true, beq_iff_eq] at h
      rw [h.1, eqAll_of_eq_true h.2]
  | leaf _, node _ _, h => by simp [eq] at h
  | node _ _, leaf _, h => by simp [eq] at h

theorem eqAll_of_eq_true : ∀ {cs ds : List Tree}, eqAll cs ds = true → cs = ds
  | [], [], _ => rfl
  | c :: cs, d :: ds, h => by
      simp only [eqAll, Bool.and_eq_true] at h
      rw [eq_of_eq_true h.1, eqAll_of_eq_true h.2]
  | [], _ :: _, h => by simp [eqAll] at h
  | _ :: _, [], h => by simp [eqAll] at h

end

mutual

theorem eq_refl : ∀ t : Tree, t.eq t = true
  | leaf v => by simp [eq]
  | node l cs => by simp [eq, eqAll_refl cs]

theorem eqAll_refl : ∀ cs : List Tree, eqAll cs cs = true
  | [] => rfl
  | c :: cs => by simp [eqAll, eq_refl c, eqAll_refl cs]

end

instance : LawfulBEq Tree where
  eq_of_beq := eq_of_eq_true
  rfl := eq_refl _

instance : DecidableEq Tree := instDecidableEqOfLawfulBEq

def isLeaf : Tree → Bool
  | leaf _ => true
  | node _ _ => false

/-- The label of a node; a leaf has none. -/
def label? : Tree → Option String
  | leaf _ => none
  | node l _ => some l

/-- The children of a node; a leaf has none. -/
def children : Tree → List Tree
  | leaf _ => []
  | node _ cs => cs

/-- Whether a tree is a node over a single leaf. -/
def isPreterminal : Tree → Bool
  | node _ [leaf _] => true
  | _ => false

/-- Whether a tree is a node with at least one child and no leaf among its children. -/
def isPhrasal : Tree → Bool
  | node _ (c :: cs) => (c :: cs).all fun t => !t.isLeaf
  | _ => false

mutual

/-- The leaves, left to right. -/
def leaves : Tree → List Word
  | leaf w => [w]
  | node _ cs => leavesAll cs

def leavesAll : List Tree → List Word
  | [] => []
  | c :: cs => leaves c ++ leavesAll cs

end

theorem leavesAll_eq (cs : List Tree) : leavesAll cs = cs.flatMap leaves := by
  induction cs with
  | nil => rfl
  | cons c cs ih => simp [leavesAll, ih]

@[simp] theorem leaves_leaf (w : Word) : (leaf w).leaves = [w] := by simp [leaves]

@[simp] theorem leaves_node (l : String) (cs : List Tree) :
    (node l cs).leaves = cs.flatMap leaves := by simp [leaves, leavesAll_eq]

mutual

/-- The number of nodes on the longest way down to a leaf, the leaf included. -/
def height : Tree → Nat
  | leaf _ => 1
  | node _ cs => 1 + heightAll cs

/-- The greatest height in a list of trees, zero for none. -/
def heightAll : List Tree → Nat
  | [] => 0
  | c :: cs => max (height c) (heightAll cs)

end

mutual

/-- The number of leaves and nodes. -/
def size : Tree → Nat
  | leaf _ => 1
  | node _ cs => 1 + sizeAll cs

def sizeAll : List Tree → Nat
  | [] => 0
  | c :: cs => size c + sizeAll cs

end

theorem size_pos (t : Tree) : 0 < t.size := by
  cases t with
  | leaf w => simp [size]
  | node l cs => simp only [size]; omega

@[simp] theorem sizeAll_append (cs ds : List Tree) :
    sizeAll (cs ++ ds) = sizeAll cs + sizeAll ds := by
  induction cs with
  | nil => simp [sizeAll]
  | cons c cs ih => simp [sizeAll, ih, Nat.add_assoc]

mutual

def mapLabels (f : String → String) : Tree → Tree
  | leaf w => leaf w
  | node l cs => node (f l) (mapLabelsAll f cs)

def mapLabelsAll (f : String → String) : List Tree → List Tree
  | [] => []
  | c :: cs => mapLabels f c :: mapLabelsAll f cs

end

@[simp] theorem mapLabels_leaf (f : String → String) (w : Word) :
    (leaf w).mapLabels f = leaf w := by simp [mapLabels]

theorem mapLabelsAll_eq (f : String → String) (cs : List Tree) :
    mapLabelsAll f cs = cs.map (mapLabels f) := by
  induction cs with
  | nil => rfl
  | cons c cs ih => simp [mapLabelsAll, ih]

@[simp] theorem mapLabels_node (f : String → String) (l : String) (cs : List Tree) :
    (node l cs).mapLabels f = node (f l) (cs.map (mapLabels f)) := by
  simp [mapLabels, mapLabelsAll_eq]

end Tree

end Constituency
