import Constituency.Score
import Mathlib.Algebra.Order.Monoid.Unbundled.Basic
import Mathlib.Algebra.Order.Monoid.Defs
import Mathlib.Algebra.Order.Ring.Rat
import Mathlib.Order.Bounds.Basic

/-!
# Laws of scores

`OrderedScore` asks for little: a total order with `bottom` at its lower end, and a sum that leaves a
score as it is when nothing is added and cannot get over a `bottom`. Doubles without infinite values
above satisfy it. `LawfulScore` is the arithmetic of exact numbers. Both make the order and the sum of
a type of scores available under their usual names.
-/
namespace Constituency

/-- Scores in a total order, with `bottom` at its lower end. -/
class OrderedScore (σ : Type) [Score σ] : Prop where
  lt_irrefl (a : σ) : Score.lt a a = false
  lt_trans {a b c : σ} : Score.lt a b = true → Score.lt b c = true → Score.lt a c = true
  eq_of_not_lt {a b : σ} : Score.lt a b = false → Score.lt b a = false → a = b
  not_lt_bottom (a : σ) : Score.lt a Score.bottom = false
  isFinite_iff (a : σ) : Score.isFinite a = true ↔ a ≠ Score.bottom
  zero_add (a : σ) : Score.add Score.zero a = a
  add_bottom (a : σ) : Score.add a Score.bottom = Score.bottom
  bottom_add (a : σ) : Score.add Score.bottom a = Score.bottom

/-- Scores as exact numbers: a commutative sum that is strictly monotone except over `bottom`. -/
class LawfulScore (σ : Type) [Score σ] : Prop extends OrderedScore σ where
  add_assoc (a b c : σ) : Score.add (Score.add a b) c = Score.add a (Score.add b c)
  add_comm (a b : σ) : Score.add a b = Score.add b a
  zero_ne_bottom : (Score.zero : σ) ≠ Score.bottom
  add_lt_add_left {a b c : σ} : Score.lt a b = true → c ≠ Score.bottom →
    Score.lt (Score.add c a) (Score.add c b) = true

namespace Score

section Order

variable {σ : Type} [Score σ] [OrderedScore σ]

instance : LinearOrder σ where
  le a b := Score.lt b a = false
  lt a b := Score.lt a b = true
  le_refl := OrderedScore.lt_irrefl
  le_trans a b c hab hbc := by
    by_contra h
    simp only [Bool.not_eq_false] at h
    cases hbc' : Score.lt b c with
    | true => simp [OrderedScore.lt_trans hbc' h] at hab
    | false => simp [OrderedScore.eq_of_not_lt hbc' hbc, h] at hab
  lt_iff_le_not_ge a b := by
    constructor
    · intro h
      refine ⟨?_, by simpa using h⟩
      by_contra h'
      simp only [Bool.not_eq_false] at h'
      simpa [OrderedScore.lt_irrefl] using OrderedScore.lt_trans h h'
    · intro h
      simpa using h.2
  le_antisymm a b hab hba := OrderedScore.eq_of_not_lt hba hab
  le_total a b := by
    by_contra h
    simp only [not_or, Bool.not_eq_false] at h
    simpa [OrderedScore.lt_irrefl] using OrderedScore.lt_trans h.1 h.2
  toDecidableLE a b := inferInstanceAs (Decidable (Score.lt b a = false))
  toDecidableLT a b := inferInstanceAs (Decidable (Score.lt a b = true))

instance : OrderBot σ where
  bot := Score.bottom
  bot_le := OrderedScore.not_lt_bottom

theorem lt_iff {a b : σ} : Score.lt a b = true ↔ a < b := Iff.rfl

theorem bottom_eq_bot : (Score.bottom : σ) = ⊥ := rfl

@[simp] theorem isFinite_eq_true {a : σ} : Score.isFinite a = true ↔ a ≠ ⊥ :=
  OrderedScore.isFinite_iff a

theorem eq_bottom_of_not_isFinite {a : σ} (h : ¬ Score.isFinite a = true) : a = Score.bottom :=
  not_not.mp ((OrderedScore.isFinite_iff a).not.mp h)

end Order

section Sum

instance instAdd {σ : Type} [Score σ] [LawfulScore σ] : Add σ := ⟨Score.add⟩

instance instZero {σ : Type} [Score σ] [LawfulScore σ] : Zero σ := ⟨Score.zero⟩

variable {σ : Type} [Score σ] [LawfulScore σ]

instance : AddCommMonoid σ where
  add_assoc := LawfulScore.add_assoc
  add_comm := LawfulScore.add_comm
  zero_add := OrderedScore.zero_add
  add_zero a := (LawfulScore.add_comm _ _).trans (OrderedScore.zero_add a)
  nsmul := nsmulRec

theorem add_eq (a b : σ) : Score.add a b = a + b := rfl

theorem zero_eq : (Score.zero : σ) = 0 := rfl

@[simp] theorem add_bot (a : σ) : a + ⊥ = ⊥ := OrderedScore.add_bottom a

@[simp] theorem bot_add (a : σ) : ⊥ + a = ⊥ := OrderedScore.bottom_add a

@[simp] theorem zero_ne_bot : (0 : σ) ≠ ⊥ := LawfulScore.zero_ne_bottom

protected theorem add_lt_add_left {a b c : σ} (h : a < b) (hc : c ≠ ⊥) : c + a < c + b :=
  LawfulScore.add_lt_add_left h hc

protected theorem add_lt_add_right {a b c : σ} (h : a < b) (hc : c ≠ ⊥) : a + c < b + c := by
  rw [add_comm a, add_comm b]
  exact Score.add_lt_add_left h hc

instance : IsOrderedAddMonoid σ where
  add_le_add_left a b h c := by
    by_cases hc : c = ⊥
    · simp [hc]
    rcases h.eq_or_lt with rfl | h
    · exact le_rfl
    · exact (Score.add_lt_add_right h hc).le

@[simp] theorem add_eq_bot {a b : σ} : a + b = ⊥ ↔ a = ⊥ ∨ b = ⊥ := by
  constructor
  · intro h
    by_contra hab
    rw [not_or] at hab
    have hlt := Score.add_lt_add_left (bot_lt_iff_ne_bot.mpr hab.2) hab.1
    rw [add_bot, h] at hlt
    exact lt_irrefl _ hlt
  · rintro (rfl | rfl) <;> simp

end Sum

end Score

namespace ExactScore

instance : LawfulScore ExactScore where
  lt_irrefl a := by cases a <;> simp [Score.lt, lt]
  lt_trans {a b c} := by
    cases a <;> cases b <;> cases c <;> simp only [Score.lt, lt, decide_eq_true_eq] <;> grind
  eq_of_not_lt {a b} := by
    cases a <;> cases b <;> simp only [Score.lt, lt, decide_eq_false_iff_not, not_lt] <;> grind
  not_lt_bottom a := by cases a <;> rfl
  isFinite_iff a := by simp [Score.isFinite, Score.bottom]
  zero_add a := by cases a <;> simp [Score.add, Score.zero, add]
  add_bottom a := by cases a <;> rfl
  bottom_add a := rfl
  add_assoc a b c := by cases a <;> cases b <;> cases c <;> simp [Score.add, add, Rat.add_assoc]
  add_comm a b := by cases a <;> cases b <;> simp [Score.add, add, Rat.add_comm]
  zero_ne_bottom := by simp [Score.zero, Score.bottom]
  add_lt_add_left {a b c} := by
    cases a <;> cases b <;> cases c <;> simp [Score.lt, Score.add, Score.bottom, lt, add]

end ExactScore

end Constituency
