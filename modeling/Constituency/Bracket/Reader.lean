import Constituency.Bracket.Escape
import Constituency.Bracket.Token
import Constituency.Text.Quoted

/-!
# Reading trees

A tree is read from its tokens with a stack of the nodes that are still open. The text must hold
exactly one tree; a refusal names the first token that does not fit, what should have stood there,
and the place.
-/
namespace Constituency.Bracket

/-- A node whose closing bracket has not been read, its children in reverse order. -/
structure Frame where
  label : List Char
  children : List Tree

/-- What a text should have had at some place. -/
inductive Expected where
  | opening
  | closing
  | ending
  deriving Repr, DecidableEq

/-- Why a text is no tree: the token that does not fit, or none at the end of the text. -/
structure ReadError where
  text : List Char
  expected : Expected
  found : Option Lexeme
  deriving Repr, DecidableEq

/-- A misfit without the text it stands in. -/
structure Misfit where
  expected : Expected
  found : Option Lexeme
  deriving Repr, DecidableEq

/-- Add a finished tree to the innermost open node; outside of all nodes it is the tree read. -/
def attach (t : Tree) : List Frame → Option Tree → List Frame × Option Tree
  | [], _ => ([], some t)
  | f :: fs, done => (⟨f.label, t :: f.children⟩ :: fs, done)

/-- Read tokens onto a stack of open nodes; `done` is the tree that is complete. -/
def readFrom : List Frame → Option Tree → List Lexeme → Except Misfit Tree
  | _ :: _, _, [] => .error ⟨.closing, none⟩
  | [], none, [] => .error ⟨.opening, none⟩
  | [], some t, [] => .ok t
  | stack, done, ⟨start, token⟩ :: rest =>
      match token with
      | .opening gap label =>
          if stack.isEmpty && done.isSome then .error ⟨.ending, some ⟨start, .opening gap label⟩⟩
          else readFrom (⟨label, []⟩ :: stack) done rest
      | .closing =>
          match stack with
          | [] => .error ⟨if done.isSome then .ending else .opening, some ⟨start, .closing⟩⟩
          | f :: fs =>
              let t := Tree.node (String.ofList f.label) f.children.reverse
              let next := attach t fs done
              readFrom next.1 next.2 rest
      | .word cs =>
          match stack with
          | [] => .error ⟨.opening, some ⟨start, .word cs⟩⟩
          | f :: fs => readFrom (⟨f.label, .ofWord (String.ofList cs) :: f.children⟩ :: fs) done rest

/-- Read a text that is one tree. -/
def read (cs : List Char) : Except ReadError Tree :=
  match readFrom [] none (lex cs) with
  | .ok t => .ok t
  | .error m => .error ⟨cs, m.expected, m.found⟩

/-! ## Messages -/

def Expected.name : Expected → String
  | opening => "("
  | closing => ")"
  | ending => "end-of-string"

namespace ReadError

/-- The place of a misfit. -/
def place (e : ReadError) : Nat :=
  match e.found with
  | some x => x.start
  | none => e.text.length

/-- How a message names what it found. -/
def foundName (e : ReadError) : String :=
  match e.found with
  | some x => String.ofList x.token.text
  | none => Expected.ending.name

/-- The surroundings of the misfit, ten characters to each side, on one line. -/
def excerpt (e : ReadError) : List Char :=
  let line := e.text.map fun c => if c = '\n' ∨ c = '\t' then ' ' else c
  let cut := if e.place + 10 < line.length then line.take (e.place + 10) ++ ['.', '.', '.'] else line
  if 10 < e.place then ['.', '.', '.'] ++ cut.drop (e.place - 10) else cut

/-- The message of a refusal: what was expected, what was found, and a pointer to the place. -/
def message (e : ReadError) : String :=
  let pointer := if 10 < e.place then 13 else e.place
  "Tree.parse(): expected " ++ Text.quoted e.expected.name ++ " but got " ++
    Text.quoted e.foundName ++ "\n" ++ Text.spaces 12 ++ "at index " ++ toString e.place ++ ".\n" ++
    Text.spaces 16 ++ "\"" ++ String.ofList e.excerpt ++ "\"\n" ++ Text.spaces (17 + pointer) ++ "^"

end ReadError

end Constituency.Bracket

namespace Constituency.Tree

mutual

def mapWords (f : String → String) : Tree → Tree
  | leaf w => leaf (w.map f)
  | node l cs => node l (mapWordsAll f cs)

def mapWordsAll (f : String → String) : List Tree → List Tree
  | [] => []
  | c :: cs => mapWords f c :: mapWordsAll f cs

end

/-- Read a tree in bracket notation; its words are taken as they are written. -/
def read (s : String) : Except Bracket.ReadError Tree := Bracket.read s.toList

end Constituency.Tree
