import Constituency.Proofs.Grammar.Induction
import Constituency.Proofs.Probability
import Constituency.Proofs.Score
import Mathlib.Analysis.SpecialFunctions.Log.Basic

/-!
# Logarithms as exact numbers

The scores of a parser as exact numbers: the logarithms of the shares and likelihoods that are estimated,
and `bottom` for what has the probability zero. The score of a rule is never `bottom` and never positive
(`logShare_ne_bot`, `logShare_nonpos`).
-/
namespace Constituency

/-- Exact scores: a real number, or nothing. -/
inductive RealScore where
  | bottom
  | value (x : ℝ)

namespace RealScore

noncomputable section

/-- The sum of two scores; nothing can be added to what cannot be done. -/
def add : RealScore → RealScore → RealScore
  | value a, value b => value (a + b)
  | _, _ => bottom

/-- The order of scores. -/
def lt : RealScore → RealScore → Bool
  | bottom, value _ => true
  | value a, value b => decide (a < b)
  | _, bottom => false

/-- Whether a score is a number. -/
def isValue : RealScore → Bool
  | bottom => false
  | value _ => true

instance : Score RealScore where
  zero := value 0
  bottom := bottom
  add := add
  lt := lt
  isFinite := isValue

instance : LawfulScore RealScore where
  lt_irrefl a := by cases a <;> simp [Score.lt, lt]
  lt_trans {a b c} := by
    cases a <;> cases b <;> cases c <;> simp only [Score.lt, lt, decide_eq_true_eq] <;> grind
  eq_of_not_lt {a b} := by
    cases a <;> cases b <;> simp only [Score.lt, lt, decide_eq_false_iff_not, not_lt] <;> grind
  not_lt_bottom a := by cases a <;> rfl
  isFinite_iff a := by cases a <;> simp [Score.isFinite, Score.bottom, isValue]
  zero_add a := by cases a <;> simp [Score.add, Score.zero, add]
  add_bottom a := by cases a <;> rfl
  bottom_add a := rfl
  add_assoc a b c := by cases a <;> cases b <;> cases c <;> simp [Score.add, add, add_assoc]
  add_comm a b := by cases a <;> cases b <;> simp [Score.add, add, add_comm]
  zero_ne_bottom := by simp [Score.zero, Score.bottom]
  add_lt_add_left {a b c} := by
    cases a <;> cases b <;> cases c <;> simp [Score.lt, Score.add, Score.bottom, lt, add]

instance : Probability ℝ where
  ofNat n := n
  add := (· + ·)
  mul := (· * ·)
  div := (· / ·)
  isNonpos x := decide (x ≤ 0)

instance : LawfulProbability ℝ where
  ofNat_eq _ := rfl
  add_eq _ _ := rfl
  mul_eq _ _ := rfl
  div_eq _ _ := rfl
  isNonpos_iff _ := decide_eq_true_iff

/-- The logarithm of a probability. -/
def ofProbability (p : ℝ) : RealScore := if 0 < p then value (Real.log p) else bottom

/-- The probability of a score. -/
def probability : RealScore → ℝ
  | bottom => 0
  | value x => Real.exp x

instance : LogScale RealScore ℝ where
  log := ofProbability
  exp := probability

end

theorem log_eq {p : ℝ} (hp : 0 < p) : (LogScale.log p : RealScore) = value (Real.log p) := if_pos hp

theorem log_ne_bot {p : ℝ} (hp : 0 < p) : (LogScale.log p : RealScore) ≠ ⊥ := by
  rw [log_eq hp]
  exact fun h => RealScore.noConfusion h

theorem value_le_value {a b : ℝ} : value a ≤ value b ↔ a ≤ b := by
  change decide (b < a) = false ↔ a ≤ b
  rw [decide_eq_false_iff_not, not_lt]

theorem value_lt_value {a b : ℝ} : value a < value b ↔ a < b := decide_eq_true_iff

section Shares

variable {n total : Nat} (hn : 0 < n) (hle : n ≤ total)

include hn hle

theorem logShare_ne_bot : (logShare n total : RealScore) ≠ ⊥ :=
  log_ne_bot (Probability.share_pos hn (hn.trans_le hle))

/-- The logarithm of a share is not positive. -/
theorem logShare_nonpos : (logShare n total : RealScore) ≤ 0 := by
  have hpos : (0 : ℝ) < Probability.share ℝ n total := Probability.share_pos hn (hn.trans_le hle)
  rw [logShare, log_eq hpos, ← Score.zero_eq]
  exact value_le_value.mpr (Real.log_nonpos hpos.le (Probability.share_le_one hle))

end Shares

section Rules

variable {qs : List Production} {g : Grammar RealScore} (h : IsInduced logShare qs g)

include h

theorem unary_ne_bot : ∀ r ∈ g.unary, r.score ≠ ⊥ := by
  intro r hr
  obtain ⟨n, total, hn, hle, hscore⟩ := h.exists_unary_share hr
  rw [hscore]
  exact logShare_ne_bot hn hle

theorem binary_ne_bot : ∀ r ∈ g.binary, r.score ≠ ⊥ := by
  intro r hr
  obtain ⟨n, total, hn, hle, hscore⟩ := h.exists_binary_share hr
  rw [hscore]
  exact logShare_ne_bot hn hle

theorem unary_nonpos : ∀ r ∈ g.unary, r.score ≤ 0 := by
  intro r hr
  obtain ⟨n, total, hn, hle, hscore⟩ := h.exists_unary_share hr
  rw [hscore]
  exact logShare_nonpos hn hle

theorem binary_nonpos : ∀ r ∈ g.binary, r.score ≤ 0 := by
  intro r hr
  obtain ⟨n, total, hn, hle, hscore⟩ := h.exists_binary_share hr
  rw [hscore]
  exact logShare_nonpos hn hle

/-- No cycle of rules gains anything, since no rule does. -/
theorem noPositiveCycle_unary : NoPositiveCycle g.unary := noPositiveCycle_of_nonpos (unary_nonpos h)

end Rules

end RealScore

end Constituency
