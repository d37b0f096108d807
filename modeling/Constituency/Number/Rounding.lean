/-!
# Rounding quotients

Quotients of natural numbers rounded to the nearest integer, a half going to the even neighbour, and
the scaling of a quotient to a given number of significant digits.
-/
namespace Constituency.Number

/-- The integer nearest to `num / den`; of two equally near ones the even one. -/
def roundDiv (num den : Nat) : Nat :=
  let q := num / den
  let r := num % den
  if 2 * r < den then q
  else if den < 2 * r then q + 1
  else if q % 2 = 0 then q else q + 1

/-- Rounding moves a quotient by at most one half. -/
theorem roundDiv_near (num den : Nat) (h : 0 < den) :
    2 * num ≤ 2 * (roundDiv num den * den) + den ∧
      2 * (roundDiv num den * den) ≤ 2 * num + den := by
  have hd := Nat.div_add_mod num den
  have hr := Nat.mod_lt num h
  rw [Nat.mul_comm] at hd
  simp only [roundDiv]
  split
  · omega
  · split
    · rw [Nat.add_mul]; omega
    · split
      · omega
      · rw [Nat.add_mul]; omega

/-- A half goes to an even integer. -/
theorem roundDiv_even_of_half (num den : Nat) (h : 2 * (num % den) = den) :
    roundDiv num den % 2 = 0 := by
  simp only [roundDiv]
  split
  · omega
  · split
    · omega
    · split <;> omega

def powerOfTen (n : Nat) : Nat := Nat.pow 10 n

/-- The number of decimal digits; zero has one. -/
def digitCount (n : Nat) : Nat := (Nat.toDigits 10 n).length

/-- `num * 10 ^ e / den` as numerator and denominator. -/
def scale (num den : Nat) (e : Int) : Nat × Nat :=
  match e with
  | .ofNat k => (num * powerOfTen k, den)
  | .negSucc k => (num, den * powerOfTen (k + 1))

/-- The exponent of the leading decimal digit of a positive quotient. -/
def leadingExponent (num den : Nat) : Int :=
  let guess : Int := (digitCount num : Int) - (digitCount den : Int)
  let s := scale num den (-guess)
  if s.2 ≤ s.1 then guess else guess - 1

/-- A positive quotient rounded to `digits` significant digits: the digits as an integer of that
many digits, and the exponent of the leading one. -/
def significant (digits num den : Nat) : Nat × Int :=
  let e := leadingExponent num den
  let s := scale num den ((digits : Int) - 1 - e)
  let n := roundDiv s.1 s.2
  if powerOfTen digits ≤ n then (powerOfTen (digits - 1), e + 1) else (n, e)

end Constituency.Number
