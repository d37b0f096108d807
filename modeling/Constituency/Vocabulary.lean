import Constituency.Position
import Constituency.Text.Quoted

/-!
# Vocabularies

A vocabulary gives labels consecutive numbers, in the order in which they were first asked for. It
only grows: a number stands for the same label ever after.
-/
namespace Constituency

/-- Labels with their numbers, which are their places in the list. -/
structure Vocabulary where
  labels : Array String
  deriving Repr, DecidableEq

namespace Vocabulary

def empty : Vocabulary := ⟨#[]⟩

def size (v : Vocabulary) : Nat := v.labels.size

/-- The number of a label, if it has one. -/
def find? (v : Vocabulary) (label : String) : Option Nat := v.labels.toList.findIdx? (· == label)

def contains (v : Vocabulary) (label : String) : Bool := v.labels.contains label

/-- The number of a label, and the vocabulary with the label in it. -/
def indexOf (v : Vocabulary) (label : String) : Nat × Vocabulary :=
  match v.find? label with
  | some i => (i, v)
  | none => (v.size, ⟨v.labels.push label⟩)

/-- The vocabulary with a label in it. -/
def add (v : Vocabulary) (label : String) : Vocabulary := (v.indexOf label).2

/-- The vocabulary of a list of labels, each numbered at its first occurrence. -/
def ofList (labels : List String) : Vocabulary := labels.foldl add empty

/-- The label of a number; a negative number counts from the end. -/
def label? (v : Vocabulary) (i : Int) : Option String := itemAt? v.labels.toList i

def display (v : Vocabulary) : String := "Vocabulary(" ++ Text.quotedList v.labels.toList ++ ")"

/-- The number of a label stands for that label. -/
theorem label_indexOf (v : Vocabulary) (label : String) :
    (v.indexOf label).2.labels[(v.indexOf label).1]? = some label := by
  simp only [indexOf]
  split
  · rename_i i h
    simp only [find?, List.findIdx?_eq_some_iff_getElem] at h
    obtain ⟨hi, he, _⟩ := h
    simp only [Array.length_toList, Array.getElem_toList, beq_iff_eq] at hi he
    simp [hi, he]
  · simp [size]

end Vocabulary

end Constituency
