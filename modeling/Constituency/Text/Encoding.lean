import Constituency.Text.ByteTable
import Constituency.Text.EastAsian
import Constituency.Text.Escaped
import Constituency.Text.Lines
import Constituency.Text.Shifted
import Constituency.Text.Units

/-!
# Encodings

Files are bytes. A text is read from them in an encoding and written back in the same way; bytes that
are no text and characters without bytes are told apart. A mark in front of a text says in which
encoding it is. Bytes are read in portions, so those that are no text leave the lines of the portions
in front of them.
-/
namespace Constituency.Text

/-- How characters are stored as bytes. -/
inductive Encoding where
  | utf8
  /-- UTF-8 with a mark in front. -/
  | markedUtf8
  /-- Units of two bytes, in an order or with a mark in front. -/
  | utf16 (order : Option ByteOrder)
  /-- Numbers of four bytes, in an order or with a mark in front. -/
  | utf32 (order : Option ByteOrder)
  | utf7
  /-- Escapes for everything that is not printable, or only for numbers that are no bytes. -/
  | escaped (everything : Bool)
  /-- One byte for each character. -/
  | table (t : ByteTable)
  /-- One or more bytes for each character. -/
  | eastAsian (e : EastAsian)
  /-- The encoding of no text. -/
  | undefined
  deriving Repr, DecidableEq

inductive CodecError where
  /-- There is no encoding of the name. -/
  | unknownEncoding
  /-- The name of the encoding has the null character in it. -/
  | nullCharacter
  /-- The bytes are no text. -/
  | badBytes
  /-- A character has no bytes. -/
  | badCharacter
  /-- There is no mark in front of the text. -/
  | noMark
  /-- Nothing can be read or written in the encoding. -/
  | undefinedEncoding
  deriving Repr, DecidableEq

def CodecError.message : CodecError → String
  | unknownEncoding => "unknown encoding"
  | nullCharacter => "embedded null character"
  | badBytes => "bytes not in encoding"
  | badCharacter => "character not in encoding"
  | noMark => "no mark in front of the text"
  | undefinedEncoding => "undefined encoding"

namespace Encoding

/-! ## Reading -/

/-- Whether a byte continues a character in UTF-8. -/
def isContinuation (b : UInt8) : Bool := 0x80 ≤ b && b < 0xC0

/-- Whether a byte can follow the first one of a character of three or four bytes. -/
def canBeSecond (a b : UInt8) : Bool :=
  isContinuation b && (a != 0xE0 || 0xA0 ≤ b) && (a != 0xF0 || 0x90 ≤ b) && (a != 0xF4 || b < 0x90)

/-- Whether bytes are the beginning of a character in UTF-8. Two bytes of a surrogate count as one: only
the third byte shows that it is no character. -/
def isBrokenOff : List UInt8 → Bool
  | [a] => 0xC2 ≤ a && a ≤ 0xF4
  | [a, b] => 0xE0 ≤ a && a ≤ 0xF4 && canBeSecond a b
  | [a, b, c] => 0xF0 ≤ a && a ≤ 0xF4 && canBeSecond a b && isContinuation c
  | _ => false

/-- An excerpt in UTF-8. -/
def readUtf8? (bytes : ByteArray) : Option Excerpt :=
  [0, 1, 2, 3].findSome? fun k =>
    let n := bytes.size - k
    if k = 0 || isBrokenOff (bytes.extract n bytes.size).toList then
      (String.fromUTF8? (bytes.extract 0 n)).map (⟨·, if k = 0 then some "" else none⟩)
    else none

/-- The character that is a mark in front of a text. -/
def mark : Char := '\ufeff'

/-- The mark in front of a text in UTF-8. -/
def utf8Mark : List UInt8 := [0xEF, 0xBB, 0xBF]

/-- An excerpt in UTF-8 with or without a mark in front. Part of a mark is read as nothing. -/
def readMarkedUtf8? (bytes : ByteArray) : Option Excerpt :=
  let front := (bytes.extract 0 3).toList
  if front = utf8Mark then readUtf8? (bytes.extract 3 bytes.size)
  else if bytes.size < 3 && front.isPrefixOf utf8Mark then some ⟨"", some ""⟩
  else readUtf8? bytes

/-- An excerpt, if bytes are text. -/
def expect (x : Option Excerpt) : Except CodecError Excerpt := x.elim (.error .badBytes) .ok

/-- An excerpt of a text with a mark in front, which is written as `write` says. A text without one is
refused as soon as it has a character. -/
def readMarked (next : ByteOrder → UInt8 → List UInt8 → Step)
    (write : ByteOrder → List Char → List UInt8) (bytes : List UInt8) : Except CodecError Excerpt :=
  match [ByteOrder.little, .big].find? fun o => (write o [mark]).isPrefixOf bytes with
  | some o => expect (Excerpt.read (next o) (bytes.drop (write o [mark]).length))
  | none => do
      let x ← expect (Excerpt.read (next .little) bytes)
      if x.text.isEmpty then pure x else throw .noMark

/-- What bytes say while more of them may follow. -/
def excerpt (e : Encoding) (bytes : ByteArray) : Except CodecError Excerpt :=
  match e with
  | utf8 => expect (readUtf8? bytes)
  | markedUtf8 => expect (readMarkedUtf8? bytes)
  | utf16 none => readMarked nextOfUnits writeUnits bytes.toList
  | utf16 (some o) => expect (Excerpt.read (nextOfUnits o) bytes.toList)
  | utf32 none => readMarked nextOfNumbers writeNumbers bytes.toList
  | utf32 (some o) => expect (Excerpt.read (nextOfNumbers o) bytes.toList)
  | utf7 => expect (Excerpt.read Shifted.next bytes.toList)
  | escaped true => expect (Excerpt.read Escaped.next bytes.toList)
  | escaped false => expect (Excerpt.read Escaped.nextRaw bytes.toList)
  | table t => expect ((t.read? bytes.toList).map fun cs => ⟨String.ofList cs, some ""⟩)
  | eastAsian e => expect (Excerpt.read e.next bytes.toList)
  | undefined => .error .undefinedEncoding

def read (e : Encoding) (bytes : ByteArray) : Except CodecError String := do
  match (← e.excerpt bytes).final? with
  | some s => pure s
  | none => throw .badBytes

/-! ## Writing -/

/-- The bytes of characters of ASCII and Latin-1. -/
def ofLatin1 (cs : List Char) : List UInt8 := cs.map fun c => c.toNat.toUInt8

/-- The bytes of a text; `isFirst` tells that there is nothing in front of it, so that a mark is
wanted. -/
def write (e : Encoding) (isFirst : Bool) (s : String) : Except CodecError ByteArray :=
  let cs := s.toList
  let marked := if isFirst then mark :: cs else cs
  let ofList (bytes : List UInt8) : Except CodecError ByteArray := .ok ⟨bytes.toArray⟩
  match e with
  | utf8 => .ok s.toUTF8
  | markedUtf8 => .ok (String.ofList marked).toUTF8
  | utf16 none => ofList (writeUnits .little marked)
  | utf16 (some o) => ofList (writeUnits o cs)
  | utf32 none => ofList (writeNumbers .little marked)
  | utf32 (some o) => ofList (writeNumbers o cs)
  | utf7 => ofList (ofLatin1 (Shifted.write cs))
  | escaped true => ofList (ofLatin1 (cs.flatMap Escaped.write))
  | escaped false => ofList (ofLatin1 (cs.flatMap Escaped.writeRaw))
  | table t => (t.write? cs).elim (.error .badCharacter) ofList
  | eastAsian e => (e.write? cs).elim (.error .badCharacter) ofList
  | undefined => .error .undefinedEncoding

end Encoding

/-! ## Reading in portions -/

/-- Items read in front of the first error, and the error. -/
structure Decoded (α : Type) where
  items : List α
  error : Option CodecError

/-- The number of bytes that are read at a time. -/
def portion : Nat := 8192

namespace Encoding

/-- The text of the portions in front of the first one that is no text, and what is wrong with that one;
`n` bounds their number, and `error` is what is wrong behind them. -/
def readablePart (e : Encoding) (bytes : ByteArray) : Nat → CodecError → String × CodecError
  | 0, error => ("", error)
  | n + 1, error =>
      match e.excerpt (bytes.extract 0 ((n + 1) * portion)) with
      | .ok x => (x.text, error)
      | .error error => e.readablePart bytes n error

/-- The lines of bytes. Where the bytes are no text, they end with the last complete line of the
portions in front. -/
def readLines (e : Encoding) (bytes : ByteArray) : Decoded (List Char) :=
  match e.read bytes with
  | .ok s => ⟨lines s, none⟩
  | .error error =>
      let (text, error) := e.readablePart bytes (bytes.size / portion + 1) error
      ⟨(splitLines [] (withoutReturn text.toList)).1, some error⟩

end Encoding

end Constituency.Text
