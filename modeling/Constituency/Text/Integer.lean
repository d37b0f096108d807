import Constituency.Text.Blank
import Constituency.Text.Digit
import Constituency.Text.Quoted

/-!
# Integers as text

An integer is written as decimal digits of any script, with at most one sign in front, single
underscores allowed between two digits, and white space allowed around the whole. A number of more
than 4300 digits is not read, whatever stands behind its digits.
-/
namespace Constituency.Text

inductive IntegerError where
  | notAnInteger (text : String)
  /-- A text that begins with more digits than are read. -/
  | tooManyDigits (count : Nat)
  deriving Repr, DecidableEq

/-- The greatest number of digits that is read. -/
def maxDigits : Nat := 4300

/-- What is said of a text that is not read; at most 200 characters of it are shown. -/
def IntegerError.message : IntegerError → String
  | notAnInteger text =>
      "invalid literal for int() with base 10: " ++ String.ofList ((quoted text).toList.take 200)
  | tooManyDigits n =>
      "Exceeds the limit (" ++ toString maxDigits ++
        " digits) for integer string conversion: value has " ++ toString n ++
        " digits; use sys.set_int_max_str_digits() to increase the limit"

/-- The digits in front of a text: their number, the number of digits, and the rest. -/
structure DigitRun where
  value : Nat
  count : Nat
  rest : List Char
  deriving Repr, DecidableEq

/-- Read digits onto those read so far. Every underscore must stand in front of a digit. -/
def DigitRun.extend (value count : Nat) : List Char → Option DigitRun
  | [] => some ⟨value, count, []⟩
  | '_' :: c :: cs => (digitValue? c).bind fun d => extend (10 * value + d) (count + 1) cs
  | c :: cs =>
      match digitValue? c with
      | some d => extend (10 * value + d) (count + 1) cs
      | none => if c = '_' then none else some ⟨value, count, c :: cs⟩

/-- Read digits, of which there is at least one. -/
def DigitRun.read? : List Char → Option DigitRun
  | [] => none
  | c :: cs => (digitValue? c).bind fun d => extend d 1 cs

/-- The sign in front of a text, and the rest. -/
def splitSign : List Char → Bool × List Char
  | '-' :: cs => (true, cs)
  | '+' :: cs => (false, cs)
  | cs => (false, cs)

def readInt (s : String) : Except IntegerError Int :=
  let signed := splitSign (s.toList.dropWhile isWhiteSpace)
  match DigitRun.read? signed.2 with
  | none => .error (.notAnInteger s)
  | some digits =>
      if maxDigits < digits.count then .error (.tooManyDigits digits.count)
      else if digits.rest.all isWhiteSpace then
        .ok (if signed.1 then -(digits.value : Int) else digits.value)
      else .error (.notAnInteger s)

end Constituency.Text
