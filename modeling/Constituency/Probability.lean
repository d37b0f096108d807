/-!
# Probabilities

The numbers with which probabilities are estimated, and their logarithms, which are scores.
Estimates are written once for every type of numbers: doubles, as they run, and rational numbers,
over which their laws are stated.
-/
namespace Constituency

/-- What estimates of probabilities need of a type of numbers. -/
class Probability (ρ : Type) where
  ofNat : Nat → ρ
  add : ρ → ρ → ρ
  mul : ρ → ρ → ρ
  div : ρ → ρ → ρ
  /-- Whether a number is at most zero. -/
  isNonpos : ρ → Bool

/-- A type of scores that are logarithms of probabilities of a type. -/
class LogScale (σ : Type) (ρ : outParam Type) where
  log : ρ → σ
  exp : σ → ρ

namespace Probability

instance : Probability Float where
  ofNat := Float.ofNat
  add := (· + ·)
  mul := (· * ·)
  div := (· / ·)
  isNonpos x := x ≤ 0

instance : Probability Rat where
  ofNat n := n
  add := (· + ·)
  mul := (· * ·)
  div := (· / ·)
  isNonpos x := x ≤ 0

def share (ρ : Type) [Probability ρ] (count total : Nat) : ρ := div (ofNat count) (ofNat total)

end Probability

namespace LogScale

instance : LogScale Float Float where
  log := Float.log
  exp := Float.exp

end LogScale

end Constituency
