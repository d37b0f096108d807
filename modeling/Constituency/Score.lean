/-!
# Scores

A score is a number that derivations add up, with a value below all others for what has no
derivation. The algorithms on scores are written once for every type of scores: doubles, as they
run, and exact numbers, over which their laws are stated.
-/
namespace Constituency

/-- What the algorithms need of a type of scores. -/
class Score (σ : Type) where
  /-- The score of doing nothing. -/
  zero : σ
  /-- The score of what cannot be done. -/
  bottom : σ
  add : σ → σ → σ
  /-- Strictly smaller. -/
  lt : σ → σ → Bool
  /-- Whether a score is one of something that can be done. -/
  isFinite : σ → Bool

namespace Score

/-- Logarithms of probabilities, as doubles. -/
instance : Score Float where
  zero := 0.0
  bottom := -(1.0 / 0.0)
  add := (· + ·)
  lt a b := a < b
  isFinite := Float.isFinite

end Score

/-- Exact scores: a rational number, or nothing. -/
inductive ExactScore where
  | bottom
  | value (q : Rat)
  deriving DecidableEq

namespace ExactScore

/-- The sum of two exact scores; nothing can be added to what cannot be done. -/
def add : ExactScore → ExactScore → ExactScore
  | value a, value b => value (a + b)
  | _, _ => bottom

def lt : ExactScore → ExactScore → Bool
  | bottom, value _ => true
  | value a, value b => a < b
  | _, bottom => false

instance : Score ExactScore where
  zero := value 0
  bottom := bottom
  add := add
  lt := lt
  isFinite s := s != bottom

end ExactScore

end Constituency
