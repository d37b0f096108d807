/-!
# Binary floating-point numbers

A double read from its bits: a sign and `mantissa * 2 ^ exponent`, an infinity, or no number. All
text of a double is computed from this form in exact integer arithmetic.
-/
namespace Constituency.Number

inductive Binary where
  | finite (negative : Bool) (mantissa : Nat) (exponent : Int)
  | infinite (negative : Bool)
  | nan
  deriving Repr, DecidableEq

namespace Binary

def powerOfTwo (n : Nat) : Nat := Nat.pow 2 n

/-- The smallest exponent of a double, that of the subnormal numbers. -/
def minExponent : Int := -1074

/-- The value of 64 bits: one for the sign, eleven for the exponent, 52 for the fraction. -/
def ofBits (bits : Nat) : Binary :=
  let negative := bits / powerOfTwo 63 % 2 == 1
  let e : Nat := bits / powerOfTwo 52 % powerOfTwo 11
  let f : Nat := bits % powerOfTwo 52
  if e = 0 then .finite negative f minExponent
  else if e = 2047 then
    if f = 0 then .infinite negative else .nan
  else .finite negative (powerOfTwo 52 + f) ((e : Int) - 1 + minExponent)

def ofFloat (x : Float) : Binary := ofBits x.toBits.toNat

/-- `mantissa * 2 ^ exponent` as a quotient. -/
def quotient (mantissa : Nat) (exponent : Int) : Nat × Nat :=
  match exponent with
  | .ofNat k => (mantissa * powerOfTwo k, 1)
  | .negSucc k => (mantissa, powerOfTwo (k + 1))

end Binary

end Constituency.Number
