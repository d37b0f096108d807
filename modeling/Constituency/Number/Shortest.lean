import Constituency.Number.Binary
import Constituency.Number.Rounding

/-!
# Shortest decimals

The decimal of a double with the fewest digits that still reads back as that double; of several
such decimals, the one nearest to the exact value, an even last digit deciding a tie. A decimal
reads back when it lies between the midpoints to the two neighbouring doubles, the midpoints
included when the mantissa is even.
-/
namespace Constituency.Number

/-- The values that round to a double, in units of `2 ^ (exponent - 2)`: the two ends, and whether
they belong to it. -/
structure Interval where
  low : Nat
  high : Nat
  closed : Bool
  exponent : Int
  deriving Repr

/-- The values that round to `mantissa * 2 ^ exponent`. Below a power of two the doubles lie twice
as dense. -/
def Interval.ofBinary (mantissa : Nat) (exponent : Int) : Interval where
  low :=
    if mantissa = Binary.powerOfTwo 52 ∧ exponent ≠ Binary.minExponent then 4 * mantissa - 1
    else 4 * mantissa - 2
  high := 4 * mantissa + 2
  closed := mantissa % 2 == 0
  exponent := exponent - 2

/-- Whether `num / den` lies in the interval. -/
def Interval.has (i : Interval) (num den : Nat) : Bool :=
  let low := Binary.quotient i.low i.exponent
  let high := Binary.quotient i.high i.exponent
  if i.closed then low.1 * den ≤ num * low.2 && num * high.2 ≤ high.1 * den
  else low.1 * den < num * low.2 && num * high.2 < high.1 * den

/-- The decimal of at most `digits` digits that reads back, if there is one: the digits and the
exponent of their last place. Only the two neighbours of the value on the decimal grid can be it. -/
def readsBack? (digits mantissa : Nat) (exponent : Int) : Option (Nat × Int) :=
  let v := Binary.quotient mantissa exponent
  let place := leadingExponent v.1 v.2 - (digits : Int) + 1
  let s := scale v.1 v.2 (-place)
  let below := s.1 / s.2
  let interval := Interval.ofBinary mantissa exponent
  let fits (n : Nat) : Bool :=
    let d := scale n 1 place
    interval.has d.1 d.2
  match fits below, fits (below + 1) with
  | true, true => some (roundDiv s.1 s.2, place)
  | true, false => some (below, place)
  | false, true => some (below + 1, place)
  | false, false => none

/-- The first decimal that reads back among those of `digits` digits and, then, of more. -/
def shortestFrom : Nat → Nat → Nat → Int → Nat × Int
  | 0, digits, mantissa, exponent =>
      let v := Binary.quotient mantissa exponent
      let s := significant digits v.1 v.2
      (s.1, s.2 - (digits : Int) + 1)
  | more + 1, digits, mantissa, exponent =>
      match readsBack? digits mantissa exponent with
      | some d => d
      | none => shortestFrom more (digits + 1) mantissa exponent

/-- The shortest decimal of a positive double; seventeen digits always read back. -/
def shortest (mantissa : Nat) (exponent : Int) : Nat × Int :=
  shortestFrom 16 1 mantissa exponent

end Constituency.Number
