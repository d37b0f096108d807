import Constituency.Probability
import Mathlib.Algebra.Order.Field.Basic
import Mathlib.Algebra.Order.Field.Rat
import Mathlib.Data.Nat.Cast.Order.Field

/-!
# Laws of probabilities

Estimates are made of exact numbers when their operations are those of an ordered field. A share of a part
in a whole then lies between zero and one.
-/
namespace Constituency

/-- Numbers of an ordered field, with its operations. -/
class LawfulProbability (ρ : Type) [Probability ρ] [Field ρ] [LinearOrder ρ] : Prop
    extends IsStrictOrderedRing ρ where
  ofNat_eq (n : Nat) : (Probability.ofNat n : ρ) = n
  add_eq (a b : ρ) : Probability.add a b = a + b
  mul_eq (a b : ρ) : Probability.mul a b = a * b
  div_eq (a b : ρ) : Probability.div a b = a / b
  isNonpos_iff (a : ρ) : Probability.isNonpos a = true ↔ a ≤ 0

instance : LawfulProbability Rat where
  ofNat_eq _ := rfl
  add_eq _ _ := rfl
  mul_eq _ _ := rfl
  div_eq _ _ := rfl
  isNonpos_iff _ := decide_eq_true_iff

namespace Probability

variable {ρ : Type} [Probability ρ] [Field ρ] [LinearOrder ρ] [LawfulProbability ρ]

theorem share_eq (n total : Nat) : share ρ n total = n / total := by
  rw [share, LawfulProbability.div_eq, LawfulProbability.ofNat_eq, LawfulProbability.ofNat_eq]

theorem share_nonneg (n total : Nat) : 0 ≤ share ρ n total := by
  rw [share_eq]
  exact div_nonneg (Nat.cast_nonneg n) (Nat.cast_nonneg total)

theorem share_pos {n total : Nat} (hn : 0 < n) (htotal : 0 < total) : 0 < share ρ n total := by
  rw [share_eq]
  exact div_pos (Nat.cast_pos.mpr hn) (Nat.cast_pos.mpr htotal)

theorem share_le_one {n total : Nat} (hle : n ≤ total) : share ρ n total ≤ 1 := by
  rw [share_eq]
  exact div_le_one_of_le₀ (Nat.cast_le.mpr hle) (Nat.cast_nonneg total)

end Probability

end Constituency
