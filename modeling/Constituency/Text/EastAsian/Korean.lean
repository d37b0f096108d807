import Constituency.Text.Excerpt
import Constituency.Text.Grid.Ksx1001

/-!
# Korean encodings

The grid has the more frequent ones of all syllables. EUC spells out the other ones in letters; the
unified code gives them further pairs of bytes, in their order.
-/
namespace Constituency.Text.Korean

/-- The letter that fills a place in a spelled syllable. -/
def filler : Char := '\u3164'

/-- The byte of the filler in the row of letters. -/
def fillerByte : Nat := 0xD4

/-- The first byte of every letter. -/
def letterByte : Nat := 0xA4

/-- The number of the first syllable. -/
def firstSyllable : Nat := 0xAC00

def numSyllables : Nat := 11172

/-- The bytes of the letters that begin syllables. -/
def initials : List Nat := [0xA1, 0xA2, 0xA4, 0xA7, 0xA8, 0xA9, 0xB1, 0xB2, 0xB3, 0xB5, 0xB6, 0xB7,
  0xB8, 0xB9, 0xBA, 0xBB, 0xBC, 0xBD, 0xBE]

/-- The bytes of the vowels. -/
def vowels : List Nat := List.range' 0xBF 21

/-- The bytes of the letters that end syllables, the filler for none in front. -/
def finals : List Nat := [fillerByte, 0xA1, 0xA2, 0xA3, 0xA4, 0xA5, 0xA6, 0xA7, 0xA9, 0xAA, 0xAB, 0xAC,
  0xAD, 0xAE, 0xAF, 0xB0, 0xB1, 0xB2, 0xB4, 0xB5, 0xB6, 0xB7, 0xB8, 0xBA, 0xBB, 0xBC, 0xBD, 0xBE]

/-- The syllable of three letters. -/
def syllable? (i v f : Nat) : Option Char := do
  let i ← initials.idxOf? i
  let v ← vowels.idxOf? v
  let f ← finals.idxOf? f
  pure (Char.ofNat (firstSyllable + (i * vowels.length + v) * finals.length + f))

def isSyllable (c : Char) : Bool :=
  firstSyllable ≤ c.toNat && c.toNat < firstSyllable + numSyllables

/-- The bytes of a syllable that is spelled out. -/
def spelled (c : Char) : List Nat :=
  let n := c.toNat - firstSyllable
  let letter (bytes : List Nat) (k : Nat) : List Nat := [letterByte, bytes.getD k fillerByte]
  [letterByte, fillerByte] ++ letter initials (n / finals.length / vowels.length) ++
    letter vowels (n / finals.length % vowels.length) ++ letter finals (n % finals.length)

/-! ## EUC -/

def nextOfEuc (a : Nat) (bytes : List Nat) : Step :=
  if a < 0x80 then .found [Char.ofNat a] 0
  else
    match bytes with
    | [] => .begun none
    | b :: bytes =>
        if a = letterByte && b = fillerByte then
          match bytes with
          | a₁ :: i :: a₂ :: v :: a₃ :: f :: _ =>
              if a₁ = letterByte && a₂ = letterByte && a₃ = letterByte then
                .ofOption (syllable? i v f) 7
              else .wrong
          | _ => .begun none
        else .ofOption (Grid.ksx1001.highChar? a b) 1

def euc? (c : Char) : Option (List Nat) :=
  if c.toNat < 0x80 then some [c.toNat]
  else if c = filler then some [letterByte, fillerByte]
  else Grid.ksx1001.highBytes? c <|> if isSyllable c then some (spelled c) else none

/-! ## The unified code -/

/-- The syllables that the grid does not have, in their order. -/
def rareSyllables : Array Char := Grid.ksx1001.missing firstSyllable numSyllables

/-- The number of a second byte; the first `narrow` of them are not used by the grid. -/
def trail? (b : Nat) : Option Nat :=
  if 0x41 ≤ b && b ≤ 0x5A then some (b - 0x41)
  else if 0x61 ≤ b && b ≤ 0x7A then some (b - 0x47)
  else if 0x81 ≤ b && b ≤ 0xFE then some (b - 0x4D)
  else none

/-- The second byte of a number. -/
def trail (k : Nat) : Nat := if k < 26 then k + 0x41 else if k < 52 then k + 0x47 else k + 0x4D

/-- The number of second bytes before the grid begins. -/
def wide : Nat := 178

/-- The number of second bytes in front of a row of the grid. -/
def narrow : Nat := 84

/-- The number of rows before the grid begins. -/
def wideRows : Nat := 0x20

/-- The rare syllable of two bytes. -/
def rare? (a b : Nat) : Option Char := do
  let k ← trail? b
  if 0x81 ≤ a && a < 0x81 + wideRows then rareSyllables[(a - 0x81) * wide + k]?
  else if 0x81 + wideRows ≤ a && k < narrow then
    rareSyllables[wideRows * wide + (a - 0x81 - wideRows) * narrow + k]?
  else none

/-- The two bytes of a rare syllable. -/
def rareBytes? (c : Char) : Option (List Nat) :=
  (rareSyllables.findIdx? (· == c)).map fun n =>
    if n < wideRows * wide then [0x81 + n / wide, trail (n % wide)]
    else
      let n := n - wideRows * wide
      [0x81 + wideRows + n / narrow, trail (n % narrow)]

def nextOfUnified (a : Nat) (bytes : List Nat) : Step :=
  if a < 0x80 then .found [Char.ofNat a] 0
  else
    match bytes with
    | [] => .begun none
    | b :: _ =>
        if a = letterByte && b = fillerByte then .found [filler] 1
        else .ofOption (Grid.ksx1001.highChar? a b <|> rare? a b) 1

def unified? (c : Char) : Option (List Nat) :=
  if c.toNat < 0x80 then some [c.toNat]
  else if c = filler then some [letterByte, fillerByte]
  else Grid.ksx1001.highBytes? c <|> rareBytes? c

end Constituency.Text.Korean
