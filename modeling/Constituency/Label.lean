import Constituency.Text.Blank
import Constituency.Text.Quoted

/-!
# Labels

A label is a category, possibly followed by annotations: `^` and the category of the parent, `-`
or `=` and a function tag. A label that begins with `@` belongs to an intermediate node of a
binarized tree; behind `->_` it lists the siblings generated so far, separated by `_`, at most the
last two.
-/
namespace Constituency.Label

def onChars (f : List Char → List Char) (s : String) : String := String.ofList (f s.toList)

@[simp] theorem toList_onChars (f : List Char → List Char) (s : String) :
    (onChars f s).toList = f s.toList := by simp [onChars]

/-- The part before the annotation of the parent. -/
def baseChars (l : List Char) : List Char := l.takeWhile (· != '^')

def base (l : String) : String := onChars baseChars l

/-- Whether a label belongs to a node that binarization has introduced. -/
def isIntermediate (l : String) : Bool := l.toList.head? == some '@'

/-- What a node contributes to the labels of its children: its base label without any `@`. -/
def parentMark (l : String) : String := onChars (fun cs => (baseChars cs).filter (· != '@')) l

def withParent (l mark : String) : String := l ++ "^" ++ mark

/-- The label of an intermediate node before any sibling has been generated. -/
def emptyHistory (l : String) : String := "@" ++ l ++ "->_"

/-- A history with one more sibling: of the siblings it lists, the last one is kept. -/
def extendChars (l sibling : List Char) : List Char :=
  let parts := Text.fields '_' (Text.dropTrailing (· == '_') l)
  match parts with
  | [] | [_] => l ++ sibling
  | [_, _] => l ++ '_' :: sibling
  | first :: rest => first ++ '_' :: rest.getLastD [] ++ '_' :: sibling

/-- The label of the next intermediate node, after a sibling has been generated. -/
def extendHistory (l sibling : String) : String :=
  String.ofList (extendChars l.toList (baseChars sibling.toList))

def hasHistory (l : String) : Bool := l.toList.contains '_'

structure HistoryError where
  label : String
  deriving Repr, DecidableEq

def HistoryError.message (e : HistoryError) : String :=
  "not an intermediate label: " ++ Text.quoted e.label

/-- The label of the next intermediate node, unless there is no history that a sibling can be added to. -/
def markovize (l sibling : String) : Except HistoryError String :=
  if hasHistory l then .ok (extendHistory l sibling) else .error ⟨l⟩

/-- Cut at the first annotation. A leading `^` or `-` begins no annotation, and behind a leading `-`
only `^` does. -/
def cutChars : List Char → List Char
  | [] => []
  | c :: cs =>
      if c = '^' then c :: cs
      else if c = '-' then c :: cs.takeWhile (· != '^')
      else c :: cs.takeWhile fun x => x != '^' && x != '-'

def cut (l : String) : String := onChars cutChars l

/-- Cut at the first occurrence of a mark, unless the label begins with it. -/
def cutAt (mark : Char) : List Char → List Char
  | [] => []
  | c :: cs => if c = mark then c :: cs else c :: cs.takeWhile (· != mark)

/-- A label without function tags and indices, which follow `-` or `=`. -/
def withoutFunction (l : String) : String := onChars (fun cs => cutAt '=' (cutAt '-' cs)) l

example : base "NP^S" = "NP" ∧ base "@VP^S->_VBZ" = "@VP" := by decide
example : extendHistory "@NP->_" "DT^NP" = "@NP->_DT" := by decide
example : extendHistory "@NP->_DT_JJ" "NN" = "@NP->_JJ_NN" := by decide
example : cut "NP-SBJ^S" = "NP" ∧ cut "-NONE-^NP" = "-NONE-" ∧ cut "-LRB-" = "-LRB-" := by decide
example : withoutFunction "NP-SBJ=2" = "NP" := by decide

end Constituency.Label
