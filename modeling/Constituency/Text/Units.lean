import Constituency.Text.Excerpt

/-!
# Texts in units of two and four bytes

In UTF-16 a character is a number of two bytes, or two such numbers that are surrogates; in UTF-32 it
is a number of four bytes. The least byte of a number comes first or last. A mark in front of a text
tells which.
-/
namespace Constituency.Text

/-- Which byte of a number comes first. -/
inductive ByteOrder where
  | little
  | big
  deriving Repr, DecidableEq

namespace ByteOrder

def join2 (o : ByteOrder) (a b : UInt8) : Nat :=
  match o with
  | little => a.toNat + 0x100 * b.toNat
  | big => 0x100 * a.toNat + b.toNat

def join4 (o : ByteOrder) (a b c d : UInt8) : Nat :=
  match o with
  | little => o.join2 a b + 0x10000 * o.join2 c d
  | big => 0x10000 * o.join2 a b + o.join2 c d

def split2 (o : ByteOrder) (n : Nat) : List UInt8 :=
  match o with
  | little => [n.toUInt8, (n / 0x100).toUInt8]
  | big => [(n / 0x100).toUInt8, n.toUInt8]

def split4 (o : ByteOrder) (n : Nat) : List UInt8 :=
  match o with
  | little => o.split2 n ++ o.split2 (n / 0x10000)
  | big => o.split2 (n / 0x10000) ++ o.split2 n

end ByteOrder

/-- Whether a unit is the first one of two. -/
def isHighSurrogate (u : Nat) : Bool := 0xD800 ≤ u && u < 0xDC00

/-- Whether a unit is the second one of two. -/
def isLowSurrogate (u : Nat) : Bool := 0xDC00 ≤ u && u < 0xE000

def ofSurrogates (high low : Nat) : Char :=
  Char.ofNat (0x10000 + 0x400 * (high - 0xD800) + (low - 0xDC00))

/-- The units of a character in UTF-16. -/
def units (c : Char) : List Nat :=
  let n := c.toNat
  if n < 0x10000 then [n]
  else [0xD800 + (n - 0x10000) / 0x400, 0xDC00 + (n - 0x10000) % 0x400]

/-- Read a character in UTF-16. -/
def nextOfUnits (o : ByteOrder) (a : UInt8) : List UInt8 → Step
  | [] => .begun none
  | b :: bytes =>
      let u := o.join2 a b
      if isLowSurrogate u then .wrong
      else if isHighSurrogate u then
        match bytes with
        | c :: d :: _ =>
            let v := o.join2 c d
            if isLowSurrogate v then .found [ofSurrogates u v] 3 else .wrong
        | _ => .begun none
      else .found [Char.ofNat u] 1

/-- Read a character in UTF-32. -/
def nextOfNumbers (o : ByteOrder) (a : UInt8) : List UInt8 → Step
  | b :: c :: d :: _ =>
      let n := o.join4 a b c d
      if n.isValidChar then .found [Char.ofNat n] 3 else .wrong
  | _ => .begun none

/-- The bytes of a text in UTF-16. -/
def writeUnits (o : ByteOrder) (cs : List Char) : List UInt8 := (cs.flatMap units).flatMap o.split2

/-- The bytes of a text in UTF-32. -/
def writeNumbers (o : ByteOrder) (cs : List Char) : List UInt8 := cs.flatMap fun c => o.split4 c.toNat

/-- The characters of units in UTF-16, if no surrogate stands alone. -/
def ofUnits? (us : List Nat) : Option (List Char) :=
  ((Excerpt.read (nextOfUnits .big) (us.flatMap (ByteOrder.split2 .big))).bind Excerpt.final?).map
    String.toList

end Constituency.Text
