/-!
# Excerpts

Bytes are read in portions, and a portion may end inside of a character. An excerpt is what the bytes
in front of a text say while more of them may follow. An encoding is given by the step that reads
what stands at the beginning of bytes.
-/
namespace Constituency.Text

/-- What the bytes in front of a text say while more bytes may follow. -/
structure Excerpt where
  /-- The text of all that is complete. -/
  text : String
  /-- What is read in addition if no more bytes follow; nothing if a character is broken off. -/
  ending : Option String
  deriving Repr, DecidableEq

/-- What stands at the beginning of bytes. -/
inductive Step where
  /-- Characters that are written with the first byte and some further ones. -/
  | found (chars : List Char) (further : Nat)
  /-- The beginning of a character, and what it means if no more bytes follow. -/
  | begun (ending : Option (List Char))
  /-- Bytes that are no text. -/
  | wrong
  deriving Repr, DecidableEq

/-- The step that finds a character with a number of further bytes, if there is one. -/
def Step.ofOption (c : Option Char) (further : Nat) : Step := c.elim .wrong fun c => .found [c] further

namespace Excerpt

/-- An excerpt without anything begun behind it; the last character of its text comes first. -/
def whole (text : List Char) : Excerpt := ⟨String.ofList text.reverse, some ""⟩

/-- Read bytes step by step behind a text whose last character comes first. -/
def readBehind (next : UInt8 → List UInt8 → Step) (text : List Char) : List UInt8 → Option Excerpt
  | [] => some (whole text)
  | b :: bytes =>
      match next b bytes with
      | .found chars further => readBehind next (chars.reverse ++ text) (bytes.drop further)
      | .begun ending => some ⟨String.ofList text.reverse, ending.map String.ofList⟩
      | .wrong => none
termination_by bytes => bytes.length
decreasing_by simp only [List.length_drop, List.length_cons]; omega

def read (next : UInt8 → List UInt8 → Step) (bytes : List UInt8) : Option Excerpt :=
  readBehind next [] bytes

/-- The text if no more bytes follow. -/
def final? (x : Excerpt) : Option String := x.ending.map (x.text ++ ·)

end Excerpt

end Constituency.Text
