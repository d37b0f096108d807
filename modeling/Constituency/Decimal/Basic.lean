import Constituency.Number.Rounding
import Constituency.Text.Blank
import Constituency.Text.Digit

/-!
# Decimal numbers

Numbers `± coefficient * 10 ^ exponent`, the infinities, and values that are no number. The exponent
is part of the value: `0.50` and `0.5` are equal in size and different as texts. A text is read
without loss, whatever its number of digits, or not at all; only arithmetic rounds.
-/
namespace Constituency

/-- A decimal number, an infinity or no number; a signalling non-number refuses every operation. -/
inductive Decimal where
  | finite (negative : Bool) (coefficient : Nat) (exponent : Int)
  | infinite (negative : Bool)
  | nan (signalling negative : Bool) (payload : List Char)
  deriving Repr, DecidableEq

namespace Decimal

def quietNaN : Decimal := .nan false false []

def ofInt (n : Int) : Decimal := .finite (n < 0) n.natAbs 0

def isZero : Decimal → Bool
  | .finite _ 0 _ => true
  | _ => false

/-- The value on the other side of zero. -/
def neg : Decimal → Decimal
  | .finite s c e => .finite (!s) c e
  | .infinite s => .infinite !s
  | .nan g s p => .nan g s p

/-- A sign, given for every exponent, and the digits of a number. -/
def signedDigits (n : Int) : List Char :=
  (if n < 0 then '-' else '+') :: Nat.toDigits 10 n.natAbs

/-- The digits with a point, and with an exponent when the last digit stands for a power of ten
above one or the number has more than five zeros after the point. -/
def finiteChars (coefficient : Nat) (exponent : Int) : List Char :=
  let digits := Nat.toDigits 10 coefficient
  let left : Int := exponent + digits.length
  let point : Int := if exponent ≤ 0 ∧ -6 < left then left else 1
  let mantissa :=
    if point ≤ 0 then '0' :: '.' :: List.replicate point.natAbs '0' ++ digits
    else if (digits.length : Int) ≤ point then
      digits ++ List.replicate (point.toNat - digits.length) '0'
    else digits.take point.toNat ++ '.' :: digits.drop point.toNat
  if left = point then mantissa else mantissa ++ 'E' :: signedDigits (left - point)

def toText (d : Decimal) : String :=
  let body : Bool × List Char := match d with
    | .finite s c e => (s, finiteChars c e)
    | .infinite s => (s, "Infinity".toList)
    | .nan g s p => (s, (if g then "sNaN" else "NaN").toList ++ p)
  String.ofList (if body.1 then '-' :: body.2 else body.2)

/-! ## Reading -/

/-- The leading digits of a text with their number, and the rest. -/
def takeDigits (acc count : Nat) : List Char → Nat × Nat × List Char
  | [] => (acc, count, [])
  | c :: cs =>
      match Text.digitValue? c with
      | some d => takeDigits (10 * acc + d) (count + 1) cs
      | none => (acc, count, c :: cs)

/-- The exponent after the digits: none, or an `E` with a signed number, to the end of the text. -/
def readExponent? : List Char → Option Int
  | [] => some 0
  | c :: cs =>
      if c = 'e' ∨ c = 'E' then
        let sign : Bool × List Char := match cs with
          | '-' :: ds => (true, ds)
          | '+' :: ds => (false, ds)
          | ds => (false, ds)
        match takeDigits 0 0 sign.2 with
        | (n, _ + 1, []) => some (if sign.1 then -(n : Int) else n)
        | _ => none
      else none

/-- The exponent of the leading digit of a number. -/
def leadingExponent (coefficient : Nat) (exponent : Int) : Int :=
  exponent + Number.digitCount coefficient - 1

/-- The greatest exponent of the leading digit of a number that is read. -/
def greatestReadExponent : Int := 999999999999999999

/-- The least exponent of the last digit of a number that is read. -/
def leastReadExponent : Int := -1999999999999999997

/-- A finite number, if its exponent lies in the range of those that are read. -/
def inRange? (negative : Bool) (coefficient : Nat) (exponent : Int) : Option Decimal :=
  if leastReadExponent ≤ exponent ∧ leadingExponent coefficient exponent ≤ greatestReadExponent then
    some (.finite negative coefficient exponent)
  else none

/-- An unsigned finite number: digits with at most one point among them, and an exponent. -/
def readFinite? (negative : Bool) (cs : List Char) : Option Decimal :=
  let whole := takeDigits 0 0 cs
  match whole.2.2 with
  | '.' :: rest =>
      let all := takeDigits whole.1 whole.2.1 rest
      if all.2.1 = 0 then none
      else (readExponent? all.2.2).bind fun e =>
        inRange? negative all.1 (e - ((all.2.1 - whole.2.1 : Nat) : Int))
  | rest =>
      if whole.2.1 = 0 then none else (readExponent? rest).bind (inRange? negative whole.1)

/-- What a value that is no number carries along: digits of any script, without leading zeros. -/
def readPayload? (cs : List Char) : Option (List Char) :=
  (cs.mapM Text.digitValue?).map fun ds => (ds.map Nat.digitChar).dropWhile (· == '0')

/-- An unsigned number, infinity or non-number; letters count in either case. -/
def readUnsigned? (negative : Bool) (cs : List Char) : Option Decimal :=
  match cs.map Char.toLower with
  | ['i', 'n', 'f'] | ['i', 'n', 'f', 'i', 'n', 'i', 't', 'y'] => some (.infinite negative)
  | 'n' :: 'a' :: 'n' :: ds => (readPayload? ds).map (.nan false negative)
  | 's' :: 'n' :: 'a' :: 'n' :: ds => (readPayload? ds).map (.nan true negative)
  | _ => readFinite? negative cs

/-- Read a decimal; blanks around it and underscores in it are ignored. -/
def read? (s : String) : Option Decimal :=
  match (Text.strip s.toList).filter (· != '_') with
  | '-' :: cs => readUnsigned? true cs
  | '+' :: cs => readUnsigned? false cs
  | cs => readUnsigned? false cs

/-- The double nearest to `coefficient * 10 ^ exponent`. Every exponent of the leading digit beyond
±400 is out of the reach of doubles, and need not be computed with. -/
def nearestFloat (coefficient : Nat) (exponent : Int) : Float :=
  let e := leadingExponent coefficient exponent
  if coefficient = 0 ∨ e < -400 then 0.0
  else if 400 < e then 1.0 / 0.0
  else Float.ofScientific coefficient (exponent < 0) exponent.natAbs

/-- The double nearest to a decimal. -/
def toFloat : Decimal → Float
  | .finite s c e => if s then -(nearestFloat c e) else nearestFloat c e
  | .infinite s => if s then -(1.0 / 0.0) else 1.0 / 0.0
  | .nan _ _ _ => 0.0 / 0.0

end Decimal

end Constituency
