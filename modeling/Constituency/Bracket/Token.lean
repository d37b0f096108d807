import Constituency.Text.Blank

/-!
# Tokens of bracket notation

A text in bracket notation is a sequence of opening brackets with a label, closing brackets and
words, separated by blanks. Labels and words are maximal runs of characters that are neither blank
nor a bracket; the label may follow its bracket after blanks, and may be empty.
-/
namespace Constituency.Bracket

/-- A character of a label or a word. -/
def isPlain (c : Char) : Bool := !Text.isBlank c && c != '(' && c != ')'

/-- The parts of bracket notation. -/
inductive Token where
  /-- An opening bracket, the blanks behind it, and a label. -/
  | opening (gap label : List Char)
  | closing
  | word (text : List Char)
  deriving Repr, DecidableEq

def Token.text : Token → List Char
  | opening gap label => '(' :: gap ++ label
  | closing => [')']
  | word cs => cs

/-- A token and the place in the text where it starts. -/
structure Lexeme where
  start : Nat
  token : Token
  deriving Repr, DecidableEq

theorem length_dropWhile_le {α : Type} (p : α → Bool) (l : List α) :
    (l.dropWhile p).length ≤ l.length := by
  induction l with
  | nil => simp
  | cons a l ih =>
      rw [List.dropWhile_cons]
      split
      · exact Nat.le_succ_of_le ih
      · simp

/-- The tokens of a text that starts at a given place. -/
def lexFrom (start : Nat) : List Char → List Lexeme
  | [] => []
  | c :: cs =>
      if c = '(' then
        let gap := cs.takeWhile Text.isBlank
        let rest := cs.dropWhile Text.isBlank
        let label := rest.takeWhile isPlain
        ⟨start, .opening gap label⟩ ::
          lexFrom (start + 1 + gap.length + label.length) (rest.dropWhile isPlain)
      else if c = ')' then ⟨start, .closing⟩ :: lexFrom (start + 1) cs
      else if Text.isBlank c then lexFrom (start + 1) cs
      else
        let more := cs.takeWhile isPlain
        ⟨start, .word (c :: more)⟩ :: lexFrom (start + 1 + more.length) (cs.dropWhile isPlain)
termination_by cs => cs.length
decreasing_by
  · have h₁ := length_dropWhile_le Text.isBlank cs
    have h₂ := length_dropWhile_le isPlain (cs.dropWhile Text.isBlank)
    simp only [List.length_cons]; omega
  · simp
  · simp
  · have h := length_dropWhile_le isPlain cs
    simp only [List.length_cons]; omega

def lex (cs : List Char) : List Lexeme := lexFrom 0 cs

end Constituency.Bracket
