import Constituency.Text.Excerpt
import Constituency.Text.Quoted

/-!
# Text with escapes

Characters with numbers below 256 are bytes; others are written as a backslash, a letter for the
number of digits, and the number in base 16. With all escapes, control characters and those behind
ASCII are written in this way too, and a backslash is doubled.
-/
namespace Constituency.Text.Escaped

/-- The value of a digit of base 16. -/
def hexValue? (b : UInt8) : Option Nat :=
  let c := Char.ofNat b.toNat
  if c.isDigit then some (c.toNat - 48)
  else if 'a' ≤ c && c ≤ 'f' then some (c.toNat - 87)
  else if 'A' ≤ c && c ≤ 'F' then some (c.toNat - 55)
  else none

/-- Read a number of `n` digits in base 16 behind a backslash and a letter. -/
def nextNumber (n : Nat) (bytes : List UInt8) : Step :=
  let ds := (bytes.take n).map hexValue?
  if ds.contains none then .wrong
  else if ds.length < n then .begun none
  else
    let k := ds.foldl (fun k d => 16 * k + d.getD 0) 0
    if k.isValidChar then .found [Char.ofNat k] (n + 1) else .wrong

/-- Read a character where only numbers are escaped. -/
def nextRaw (b : UInt8) (bytes : List UInt8) : Step :=
  if b ≠ '\\'.toUInt8 then .found [Char.ofNat b.toNat] 0
  else
    match bytes with
    | [] => .begun (some ['\\'])
    | c :: bytes =>
        if c = 'u'.toUInt8 then nextNumber 4 bytes
        else if c = 'U'.toUInt8 then nextNumber 8 bytes
        else .found ['\\', Char.ofNat c.toNat] 1

/-- Read the name of a character between braces behind a backslash and a letter. No character is known
by its name. -/
def nextNamed (bytes : List UInt8) : Step :=
  match bytes with
  | [] => .begun none
  | b :: bytes =>
      if b = '\x7b'.toUInt8 && !bytes.contains '\x7d'.toUInt8 then .begun none else .wrong

/-- The characters that a letter behind a backslash stands for. -/
def letters : List (Char × List Char) := [
  ('\n', []), ('\\', ['\\']), ('\'', ['\'']), ('"', ['"']), ('b', ['\x08']), ('f', ['\x0c']),
  ('t', ['\t']), ('n', ['\n']), ('r', ['\r']), ('v', ['\x0b']), ('a', ['\x07'])]

/-- Whether a byte is a digit of base 8. -/
def isOctal (b : UInt8) : Bool := '0'.toUInt8 ≤ b && b ≤ '7'.toUInt8

/-- Read a character where everything can be escaped. -/
def next (b : UInt8) (bytes : List UInt8) : Step :=
  if b ≠ '\\'.toUInt8 then .found [Char.ofNat b.toNat] 0
  else
    match bytes with
    | [] => .begun none
    | c :: bytes =>
        let char := Char.ofNat c.toNat
        if char = 'x' then nextNumber 2 bytes
        else if char = 'u' then nextNumber 4 bytes
        else if char = 'U' then nextNumber 8 bytes
        else if char = 'N' then nextNamed bytes
        else if isOctal c then
          let ds := (c :: bytes.take 2).takeWhile isOctal
          let k := ds.foldl (fun k d => 8 * k + (d.toNat - 48)) 0
          if ds.length < 3 && bytes.length < ds.length then .begun (some [Char.ofNat k])
          else .found [Char.ofNat k] ds.length
        else
          match letters.lookup char with
          | some chars => .found chars 1
          | none => .found ['\\', char] 1

def writeNumber (c : Char) : List Char :=
  if c.toNat < 0x100 then '\\' :: 'x' :: hexDigits 2 c.toNat
  else if c.toNat < 0x10000 then '\\' :: 'u' :: hexDigits 4 c.toNat
  else '\\' :: 'U' :: hexDigits 8 c.toNat

/-- Write a character where only numbers are escaped. -/
def writeRaw (c : Char) : List Char := if c.toNat < 0x100 then [c] else writeNumber c

/-- Write a character where everything can be escaped. -/
def write (c : Char) : List Char :=
  if c = '\\' then ['\\', '\\']
  else if c = '\t' then ['\\', 't']
  else if c = '\n' then ['\\', 'n']
  else if c = '\r' then ['\\', 'r']
  else if 0x20 ≤ c.toNat && c.toNat < 0x7F then [c]
  else writeNumber c

end Constituency.Text.Escaped
