import Constituency.Tree.Basic

/-!
# Escaped brackets

Inside bracket notation a round bracket of a word is written `#LRB#` or `#RRB#`. Escaping replaces
the brackets; unescaping replaces the codes, first those of opening and then those of closing
brackets.
-/
namespace Constituency.Bracket

def openCode : List Char := ['#', 'L', 'R', 'B', '#']

def closeCode : List Char := ['#', 'R', 'R', 'B', '#']

/-- Replace brackets by their codes. -/
def escape : List Char → List Char
  | [] => []
  | c :: cs =>
      if c = '(' then openCode ++ escape cs
      else if c = ')' then closeCode ++ escape cs
      else c :: escape cs

/-- Replace the codes with the second letter `side` by a bracket, left to right. -/
def decode (side bracket : Char) : List Char → List Char
  | '#' :: s :: 'R' :: 'B' :: '#' :: cs =>
      if s = side then bracket :: decode side bracket cs
      else '#' :: decode side bracket (s :: 'R' :: 'B' :: '#' :: cs)
  | c :: cs => c :: decode side bracket cs
  | [] => []

def unescape (cs : List Char) : List Char := decode 'R' ')' (decode 'L' '(' cs)

/-- A word in the form in which bracket notation holds it; a gap has the empty form. -/
def escapeWord : Word → List Char
  | none => []
  | some w => escape w.toList

/-- A word read from its form in bracket notation. -/
def unescapeWord (w : String) : String := String.ofList (unescape w.toList)

/-- Escaped words have no brackets. -/
theorem bracket_not_mem_escape (cs : List Char) : '(' ∉ escape cs ∧ ')' ∉ escape cs := by
  induction cs with
  | nil => simp [escape]
  | cons c cs ih =>
      simp only [escape]
      split
      · simp [openCode, ih]
      · split
        · simp [closeCode, ih]
        · rename_i h₁ h₂
          simp [ih, Ne.symm h₁, Ne.symm h₂]

example : escape "a(b)".toList = "a#LRB#b#RRB#".toList := by decide
example : unescape "##LRB##".toList = "#(#".toList := by decide

end Constituency.Bracket
