import Constituency.Number.Shortest

/-!
# Layouts of numbers

How the digits of a double are laid out: with a fixed number of places, with a number of
significant digits and no trailing zeros, or with the fewest digits that read back. The choice
between positional and scientific notation and the spelling of the exponent are the same for the
last two.
-/
namespace Constituency.Number

/-- Digits with a point after the first `whole` of them. -/
def withPoint (whole : Nat) (digits : List Char) : List Char :=
  if digits.length ≤ whole then digits
  else digits.take whole ++ '.' :: digits.drop whole

/-- The exponent of scientific notation: a sign and at least two digits. -/
def exponentText (e : Int) : List Char :=
  let digits := Nat.toDigits 10 e.natAbs
  'e' :: (if e < 0 then '-' else '+') :: (if digits.length < 2 then '0' :: digits else digits)

/-- Digits in positional notation, the first of them at exponent `e`. -/
def positional (digits : List Char) (e : Int) : List Char :=
  if e < 0 then '0' :: '.' :: List.replicate (e.natAbs - 1) '0' ++ digits
  else
    let whole := e.toNat + 1
    withPoint whole (digits ++ List.replicate (whole - digits.length) '0')

/-- Digits in scientific notation, the first of them at exponent `e`. -/
def scientific (digits : List Char) (e : Int) : List Char :=
  withPoint 1 digits ++ exponentText e

def trimZeros (digits : List Char) : List Char :=
  (digits.reverse.dropWhile (· == '0')).reverse

/-- The sign in front of a number. -/
def signed (negative : Bool) (s : List Char) : String :=
  String.ofList (if negative then '-' :: s else s)

/-- At most `digits` significant digits, without trailing zeros, positional for exponents from -4 up
to `digits`. -/
def general (digits : Nat) (x : Float) : String :=
  match Binary.ofFloat x with
  | .nan => "nan"
  | .infinite negative => signed negative ['i', 'n', 'f']
  | .finite negative 0 _ => signed negative ['0']
  | .finite negative m q =>
      let v := Binary.quotient m q
      let s := significant digits v.1 v.2
      let ds := trimZeros (Nat.toDigits 10 s.1)
      signed negative <|
        if s.2 < -4 || (digits : Int) ≤ s.2 then scientific ds s.2 else positional ds s.2

/-- A natural number of hundredths, thousandths, … written with that many places. -/
def withPlaces (places n : Nat) : List Char :=
  let digits := Nat.toDigits 10 n
  let padded := List.replicate (places + 1 - digits.length) '0' ++ digits
  withPoint (padded.length - places) padded

/-- A fixed number of places, the last one rounded to nearest. -/
def fixed (places : Nat) (x : Float) : String :=
  match Binary.ofFloat x with
  | .nan => "nan"
  | .infinite negative => signed negative ['i', 'n', 'f']
  | .finite negative m q =>
      let v := Binary.quotient m q
      signed negative (withPlaces places (roundDiv (v.1 * powerOfTen places) v.2))

/-- The fewest digits that read back, positional for exponents from -4 up to 16, and with a digit
after the point in positional notation. -/
def shortestText (x : Float) : String :=
  match Binary.ofFloat x with
  | .nan => "nan"
  | .infinite negative => signed negative ['i', 'n', 'f']
  | .finite negative 0 _ => signed negative ['0', '.', '0']
  | .finite negative m q =>
      let d := shortest m q
      let all := Nat.toDigits 10 d.1
      let e := d.2 + (all.length : Int) - 1
      let ds := trimZeros all
      signed negative <|
        if e < -4 || 16 ≤ e then scientific ds e
        else
          let text := positional ds e
          if text.contains '.' then text else text ++ ['.', '0']

end Constituency.Number
