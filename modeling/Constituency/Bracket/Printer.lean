import Constituency.Bracket.Escape
import Constituency.Text.Blank
import Constituency.Text.Quoted
import Constituency.Text.Spaces

/-!
# Printing trees

A tree on one line (`flat`), a tree over several lines when it does not fit into a margin
(`pretty`), and a tree as the expression that builds it (`expression`). The first two are bracket
notation with escaped words. Their texts are built from the end (`flatOnto`, `prettyOnto`), so that no
part of a deep tree is copied for each node above it; `flatText_eq` and `prettyText_eq` say that they
are the texts of the definitions. Each line of a tree is indented by a number of spaces, which can be out of
reach: `layout` prints as `pretty` does, and fails then.
-/
namespace Constituency.Tree

mutual

/-- A tree on one line. A node without children keeps the space behind its label. -/
def flat : Tree → List Char
  | leaf w => Bracket.escapeWord w
  | node l cs => '(' :: l.toList ++ ' ' :: flatAll cs ++ [')']

/-- Trees on one line, separated by spaces. -/
def flatAll : List Tree → List Char
  | [] => []
  | [c] => flat c
  | c :: d :: cs => flat c ++ ' ' :: flatAll (d :: cs)

end

mutual

/-- A tree on one line, in front of what follows it. -/
def flatOnto : Tree → List Char → List Char
  | leaf w, rest => Bracket.escapeWord w ++ rest
  | node l cs, rest => '(' :: l.toList ++ ' ' :: flatAllOnto cs (')' :: rest)

/-- Trees on one line, separated by spaces, in front of what follows them. -/
def flatAllOnto : List Tree → List Char → List Char
  | [], rest => rest
  | [c], rest => flatOnto c rest
  | c :: d :: cs, rest => flatOnto c (' ' :: flatAllOnto (d :: cs) rest)

end

mutual

theorem flatOnto_eq : ∀ (t : Tree) (rest : List Char), t.flatOnto rest = t.flat ++ rest
  | leaf w, rest => by simp [flatOnto, flat]
  | node l cs, rest => by simp [flatOnto, flat, flatAllOnto_eq cs]

theorem flatAllOnto_eq : ∀ (cs : List Tree) (rest : List Char),
    flatAllOnto cs rest = flatAll cs ++ rest
  | [], rest => by simp [flatAllOnto, flatAll]
  | [c], rest => by simp [flatAllOnto, flatAll, flatOnto_eq c]
  | c :: d :: cs, rest => by
      simp [flatAllOnto, flatAll, flatOnto_eq c, flatAllOnto_eq (d :: cs)]

end

def flatText (t : Tree) : String := String.ofList (t.flatOnto [])

theorem flatText_eq (t : Tree) : t.flatText = String.ofList t.flat := by
  simp [flatText, flatOnto_eq]

mutual

/-- A tree printed from a column on: on one line when the line ends before the margin, else with each
child on lines of its own, two columns further in. -/
def pretty (margin indent : Int) : Tree → List Char
  | leaf w => Bracket.escapeWord w
  | node l cs =>
      let line := flat (node l cs)
      if (line.length : Int) + indent < margin then line
      else '(' :: l.toList ++ prettyAll margin (indent + 2) cs ++ [')']

/-- Trees printed on lines of their own, each at the same column. -/
def prettyAll (margin indent : Int) : List Tree → List Char
  | [] => []
  | c :: cs =>
      '\n' :: List.replicate indent.toNat ' ' ++ pretty margin indent c ++ prettyAll margin indent cs

end

mutual

/-- A tree printed from a column on, in front of what follows it. -/
def prettyOnto (margin indent : Int) : Tree → List Char → List Char
  | leaf w, rest => Bracket.escapeWord w ++ rest
  | node l cs, rest =>
      let line := flatOnto (node l cs) []
      if (line.length : Int) + indent < margin then line ++ rest
      else '(' :: l.toList ++ prettyAllOnto margin (indent + 2) cs (')' :: rest)

/-- Trees printed on lines of their own, in front of what follows them. -/
def prettyAllOnto (margin indent : Int) : List Tree → List Char → List Char
  | [], rest => rest
  | c :: cs, rest =>
      '\n' :: List.replicate indent.toNat ' ' ++
        prettyOnto margin indent c (prettyAllOnto margin indent cs rest)

end

mutual

theorem prettyOnto_eq (margin indent : Int) : ∀ (t : Tree) (rest : List Char),
    t.prettyOnto margin indent rest = t.pretty margin indent ++ rest
  | leaf w, rest => by simp [prettyOnto, pretty]
  | node l cs, rest => by
      simp only [prettyOnto, pretty, flatOnto_eq, List.append_nil]
      split
      · rfl
      · simp [prettyAllOnto_eq margin (indent + 2) cs]

theorem prettyAllOnto_eq (margin indent : Int) : ∀ (cs : List Tree) (rest : List Char),
    prettyAllOnto margin indent cs rest = prettyAll margin indent cs ++ rest
  | [], rest => by simp [prettyAllOnto, prettyAll]
  | c :: cs, rest => by
      simp [prettyAllOnto, prettyAll, prettyOnto_eq margin indent c,
        prettyAllOnto_eq margin indent cs]

end

/-- A tree printed within a margin, as a text. -/
def prettyText (t : Tree) (margin indent : Int) : String :=
  String.ofList (t.prettyOnto margin indent [])

theorem prettyText_eq (t : Tree) (margin indent : Int) :
    t.prettyText margin indent = String.ofList (t.pretty margin indent) := by
  simp [prettyText, prettyOnto_eq]

mutual

/-- A tree printed from a column on, in front of what follows it, if its lines can be indented. -/
def layoutOnto (margin indent : Int) : Tree → List Char → Except Text.SpacesError (List Char)
  | leaf w, rest => pure (Bracket.escapeWord w ++ rest)
  | node l cs, rest =>
      let line := flatOnto (node l cs) []
      if (line.length : Int) + indent < margin then pure (line ++ rest)
      else do
        let body ← layoutAllOnto margin (indent + 2) cs (')' :: rest)
        pure ('(' :: l.toList ++ body)

/-- Trees printed on lines of their own, in front of what follows them. Each line is indented anew. -/
def layoutAllOnto (margin indent : Int) : List Tree → List Char → Except Text.SpacesError (List Char)
  | [], rest => pure rest
  | c :: cs, rest => do
      Text.checkSpaces indent
      let below ← layoutAllOnto margin indent cs rest
      let lines ← layoutOnto margin indent c below
      pure ('\n' :: List.replicate indent.toNat ' ' ++ lines)

end

/-- A tree printed within a margin, if its lines can be indented. -/
def layout (t : Tree) (margin indent : Int) : Except Text.SpacesError String :=
  (t.layoutOnto margin indent []).map String.ofList

mutual

/-- A tree as the expression that builds it. -/
def expression : Tree → String
  | leaf none => "None"
  | leaf (some w) => Text.quoted w
  | node l cs => "Tree(" ++ Text.quoted l ++ ", [" ++ ", ".intercalate (expressions cs) ++ "])"

def expressions : List Tree → List String
  | [] => []
  | c :: cs => expression c :: expressions cs

end

/-! ## Output formats -/

/-- How trees are written to a file. -/
inductive Format where
  /-- Each tree on a line. -/
  | bracket
  /-- Each tree within 70 columns, followed by an empty line. -/
  | pretty
  /-- The words of each tree on a line. -/
  | tokens
  deriving Repr, DecidableEq

namespace Format

def names : List String := ["bracket", "pprint", "tokens"]

/-- The format of a name. -/
def ofName? : String → Option Format
  | "bracket" => some bracket
  | "pprint" => some pretty
  | "tokens" => some tokens
  | _ => none

end Format

inductive WriteError where
  | unknownFormat (name : String)
  /-- A list of words with a gap in it. -/
  | missingWord
  deriving Repr, DecidableEq

def WriteError.message : WriteError → String
  | unknownFormat name => "unrecognized format: " ++ Text.quoted name
  | missingWord => "missing word"

/-- The words of a list without gaps, separated by spaces. -/
def joinWords (ws : List Word) : Option String :=
  (ws.mapM id).map fun ss => " ".intercalate ss

/-- A tree in a format; a gap has no place in a list of words. -/
def write (t : Tree) : Format → Except WriteError String
  | .bracket => .ok (t.flatText ++ "\n")
  | .pretty => .ok (t.prettyText 70 0 ++ "\n\n")
  | .tokens =>
      match joinWords t.leaves with
      | some line => .ok (line ++ "\n")
      | none => .error .missingWord

def writeAs (t : Tree) (name : String) : Except WriteError String :=
  match Format.ofName? name with
  | some f => t.write f
  | none => .error (.unknownFormat name)

end Constituency.Tree
