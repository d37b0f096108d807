import Constituency.Proofs.Score

/-!
# Grounded scores

Two laws suffice for every score that a chart holds to lead back to the words: what cannot be done is not
finite, and nothing to which it is added gets above any score. Exact numbers have them, and so do doubles,
infinite and undefined values included (`not_lt_add_bottom_float`).
-/
namespace Constituency

/-- Scores among which `bottom` is never taken for something that can be done. -/
class GroundedScore (σ : Type) [Score σ] : Prop where
  isFinite_bottom : Score.isFinite (Score.bottom : σ) = false
  not_lt_add_bottom (a b : σ) : Score.lt a (Score.add b Score.bottom) = false

namespace GroundedScore

instance ofOrdered {σ : Type} [Score σ] [OrderedScore σ] : GroundedScore σ where
  isFinite_bottom := Bool.eq_false_iff.mpr fun h => (OrderedScore.isFinite_iff _).mp h rfl
  not_lt_add_bottom a b := by rw [OrderedScore.add_bottom, OrderedScore.not_lt_bottom]

theorem ne_bottom_of_isFinite {σ : Type} [Score σ] [GroundedScore σ] {s : σ}
    (h : Score.isFinite s = true) : s ≠ Score.bottom := by
  rintro rfl
  rw [isFinite_bottom] at h
  exact absurd h (by decide)

/-- A sum that is above some score has a summand that can be done. -/
theorem ne_bottom_of_lt_add {σ : Type} [Score σ] [GroundedScore σ] {a b s : σ}
    (h : Score.lt a (Score.add b s) = true) : s ≠ Score.bottom := by
  rintro rfl
  rw [not_lt_add_bottom] at h
  exact absurd h (by decide)

section Doubles

open Float.Model

theorem unpack_bottom : (Score.bottom : Float).toModel.unpack = .infinity .negative := rfl

/-- Negative infinity and an undefined value are all that a sum with negative infinity can be. -/
theorem add_negative_infinity (u : UnpackedFloat) :
    UnpackedFloat.add .binary64 u (.infinity .negative) = .infinity .negative ∨
      UnpackedFloat.add .binary64 u (.infinity .negative) = .notANumber := by
  cases u with
  | infinity s =>
    cases s with
    | negative => exact Or.inl rfl
    | positive => exact Or.inr rfl
  | notANumber => exact Or.inr rfl
  | zero s => exact Or.inl rfl
  | finite s m e h => exact Or.inl rfl

theorem not_lt_lowest (u : UnpackedFloat) {v : UnpackedFloat}
    (hv : v = .infinity .negative ∨ v = .notANumber) : u.lt v = false := by
  rcases hv with rfl | rfl <;> cases u with
  | infinity s => cases s <;> rfl
  | notANumber => rfl
  | zero s => cases s <;> rfl
  | finite s m e h => cases s <;> rfl

theorem not_lt_add_bottom_float (a b : Float) :
    Score.lt a (Score.add b Score.bottom) = false := by
  have hsum : (Score.add b Score.bottom : Float).toModel =
      Float.Model.pack (UnpackedFloat.add .binary64 b.toModel.unpack (.infinity .negative)) := by
    rw [← unpack_bottom]
    rfl
  refine decide_eq_false fun hlt => ?_
  have hless : a.toModel.unpack.lt (Score.add b Score.bottom : Float).toModel.unpack = true :=
    of_decide_eq_true hlt
  rw [hsum] at hless
  rcases add_negative_infinity b.toModel.unpack with h | h
  · rw [h] at hless
    exact absurd (hless.symm.trans (not_lt_lowest _ (Or.inl rfl))) (by decide)
  · rw [h] at hless
    exact absurd (hless.symm.trans (not_lt_lowest _ (Or.inr rfl))) (by decide)

instance : GroundedScore Float where
  isFinite_bottom := by decide
  not_lt_add_bottom := not_lt_add_bottom_float

end Doubles

end GroundedScore

end Constituency
