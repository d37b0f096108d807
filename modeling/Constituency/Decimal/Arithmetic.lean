import Constituency.Decimal.Basic

/-!
# Decimal arithmetic

Sums, products and quotients of decimals. Each result is the exact one rounded to 28 significant
digits, or to fewer where the least exponent allows no more, a half going to the even neighbour; an
exact quotient keeps the exponent nearest to the difference of the exponents. The class `Arithmetic`
names the operations that ratios of counts need, so that the same formulas can be read over decimals
and over exact rational numbers.
-/
namespace Constituency

/-- Why an operation on numbers has no result. -/
inductive ArithmeticError where
  /-- A number that is not zero divided by zero. -/
  | divisionByZero
  /-- An operation without a defined result, such as zero divided by zero. -/
  | undefined
  /-- A result beyond the greatest number. -/
  | overflow
  deriving Repr, DecidableEq

/-- The operations on numbers that ratios of counts need. -/
class Arithmetic (δ : Type) where
  /-- The value of a ratio that is not defined. -/
  notANumber : δ
  /-- An integer as a number. -/
  ofInt : Int → δ
  /-- Whether a number is zero. -/
  isZero : δ → Bool
  add : δ → δ → Except ArithmeticError δ
  sub : δ → δ → Except ArithmeticError δ
  div : δ → δ → Except ArithmeticError δ

namespace Decimal

/-- The number of significant digits of a result. -/
def precision : Nat := 28

/-- The exponent of the smallest number, which a quotient by an infinity takes. -/
def leastExponent : Int := -1000026

/-- The greatest exponent of the leading digit of a result. -/
def greatestExponent : Int := 999999

/-- The exponent of the last place that a result keeps: no more places than the significant digits,
and none below the least exponent. -/
def lastPlace (coefficient : Nat) (exponent : Int) : Int :=
  max exponent (max (leadingExponent coefficient exponent - precision + 1) leastExponent)

/-- A coefficient without its last `n` digits, rounded to the nearest integer. When more digits are
dropped than there are, less than one tenth is left. -/
def dropDigits (n coefficient : Nat) : Nat :=
  if Number.digitCount coefficient < n then 0
  else Number.roundDiv coefficient (Number.powerOfTen n)

/-- Round to the digits and exponents of a result. A zero takes the nearest exponent in range. -/
def round (negative : Bool) (coefficient : Nat) (exponent : Int) :
    Except ArithmeticError Decimal :=
  let place := lastPlace coefficient exponent
  let c := dropDigits (place - exponent).toNat coefficient
  let r := if Number.powerOfTen precision ≤ c then (c / 10, place + 1) else (c, place)
  if r.1 = 0 then .ok (.finite negative 0 (min r.2 greatestExponent))
  else if greatestExponent < leadingExponent r.1 r.2 then .error .overflow
  else .ok (.finite negative r.1 r.2)

/-- The digits that a result can carry along of those of a value that is no number: the last ones. -/
def shortPayload (payload : List Char) : List Char :=
  if payload.length ≤ precision then payload
  else (payload.drop (payload.length - precision)).dropWhile (· == '0')

/-- The operand that is no number and decides the result: a signalling one, else the first one. -/
def nanResult (x y : Decimal) : Option (Except ArithmeticError Decimal) :=
  match x, y with
  | .nan true _ _, _ | _, .nan true _ _ => some (.error .undefined)
  | .nan false s p, _ => some (.ok (.nan false s (shortPayload p)))
  | _, .nan false s p => some (.ok (.nan false s (shortPayload p)))
  | _, _ => none

/-- A signed integer. -/
def signed (negative : Bool) (n : Nat) : Int := if negative then -(n : Int) else n

/-- A number to be added to one whose coefficient and exponent are given. Far below the last digit of
the sum only its being there matters, so that one digit can stand for it. -/
def addend (coefficient : Nat) (exponent : Int) (c : Nat) (e : Int) : Nat × Int :=
  let far := exponent - 1 + min 0 ((Number.digitCount coefficient : Int) - precision - 1)
  if leadingExponent c e < far then (min c 1, far) else (c, e)

/-- The sum of two finite numbers, the first one with the greater exponent, at the smaller one. -/
def addFinite (s₁ : Bool) (c₁ : Nat) (e₁ : Int) (s₂ : Bool) (c₂ : Nat) (e₂ : Int) :
    Except ArithmeticError Decimal :=
  if c₁ = 0 then round (if c₂ = 0 then s₁ && s₂ else s₂) c₂ e₂
  else
    let small := addend c₁ e₁ c₂ e₂
    let sum := signed s₁ (c₁ * Number.powerOfTen (e₁ - small.2).toNat) + signed s₂ small.1
    round (if sum = 0 then s₁ && s₂ else sum < 0) sum.natAbs small.2

def add (x y : Decimal) : Except ArithmeticError Decimal :=
  (nanResult x y).getD <|
    match x, y with
    | .infinite s, .infinite t => if s = t then .ok (.infinite s) else .error .undefined
    | .infinite s, _ => .ok (.infinite s)
    | _, .infinite t => .ok (.infinite t)
    | .finite s₁ c₁ e₁, .finite s₂ c₂ e₂ =>
        if e₁ < e₂ then addFinite s₂ c₂ e₂ s₁ c₁ e₁ else addFinite s₁ c₁ e₁ s₂ c₂ e₂
    | _, _ => .error .undefined

def sub (x y : Decimal) : Except ArithmeticError Decimal := add x y.neg

def mul (x y : Decimal) : Except ArithmeticError Decimal :=
  (nanResult x y).getD <|
    match x, y with
    | .infinite s, .finite t c _ => if c = 0 then .error .undefined else .ok (.infinite (s != t))
    | .finite s c _, .infinite t => if c = 0 then .error .undefined else .ok (.infinite (s != t))
    | .infinite s, .infinite t => .ok (.infinite (s != t))
    | .finite s₁ c₁ e₁, .finite s₂ c₂ e₂ => round (s₁ != s₂) (c₁ * c₂) (e₁ + e₂)
    | _, _ => .error .undefined

/-- Drop trailing zeros, at most `n` of them. -/
def dropZeros : Nat → Nat → Int → Nat × Int
  | 0, c, e => (c, e)
  | n + 1, c, e => if c % 10 = 0 then dropZeros n (c / 10) (e + 1) else (c, e)

/-- The quotient of two finite numbers, the second one not zero. An inexact quotient is computed to
more digits than a result has, its last one marking that something follows. -/
def divFinite (s : Bool) (c₁ : Nat) (e₁ : Int) (c₂ : Nat) (e₂ : Int) :
    Except ArithmeticError Decimal :=
  if c₁ = 0 then round s 0 (e₁ - e₂)
  else
    let shift : Int := (Number.digitCount c₂ : Int) - Number.digitCount c₁ + precision + 1
    let scaled := Number.scale c₁ c₂ shift
    let q := scaled.1 / scaled.2
    let e := e₁ - e₂ - shift
    if scaled.1 % scaled.2 = 0 then
      let d := dropZeros shift.toNat q e
      round s d.1 d.2
    else round s (if q % 5 = 0 then q + 1 else q) e

def div (x y : Decimal) : Except ArithmeticError Decimal :=
  (nanResult x y).getD <|
    match x, y with
    | .infinite _, .infinite _ => .error .undefined
    | .infinite s, .finite t _ _ => .ok (.infinite (s != t))
    | .finite s _ _, .infinite t => .ok (.finite (s != t) 0 leastExponent)
    | .finite s₁ c₁ e₁, .finite s₂ c₂ e₂ =>
        if c₂ = 0 then .error (if c₁ = 0 then .undefined else .divisionByZero)
        else divFinite (s₁ != s₂) c₁ e₁ c₂ e₂
    | _, _ => .error .undefined

instance : Arithmetic Decimal where
  notANumber := quietNaN
  ofInt := ofInt
  isZero := isZero
  add := add
  sub := sub
  div := div

end Decimal

end Constituency
