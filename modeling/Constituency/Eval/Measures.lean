import Constituency.Decimal.Arithmetic
import Constituency.Eval.Counts
import Constituency.Number.Layout

/-!
# Measures of agreement

Recall and precision are the share of what two multisets have in common in the one or in the
other; the F-measure is their weighted harmonic mean; accuracy is the share of equal pairs of two
sequences. The formulas are written once for all numbers with the operations of `Arithmetic`.
-/
namespace Constituency

/-- Exact numbers of ratios: a rational number, or no number. -/
inductive Ratio where
  | undefined
  | value (q : Rat)
  deriving DecidableEq

namespace Ratio

/-- An operation on two ratios, of which neither must be undefined. -/
def lift (f : Rat → Rat → Except ArithmeticError Rat) : Ratio → Ratio → Except ArithmeticError Ratio
  | value a, value b => (f a b).map value
  | _, _ => .ok undefined

instance : Arithmetic Ratio where
  notANumber := undefined
  ofInt n := value n
  isZero r := r == value 0
  add := lift fun a b => .ok (a + b)
  sub := lift fun a b => .ok (a - b)
  div := lift fun a b =>
    if b = 0 then .error (if a = 0 then .undefined else .divisionByZero) else .ok (a / b)

end Ratio

namespace Measure

variable (δ : Type) [Arithmetic δ]

def quotient (m n : Int) : Except ArithmeticError δ :=
  Arithmetic.div (Arithmetic.ofInt m : δ) (Arithmetic.ofInt n)

variable {κ : Type} [DecidableEq κ] [Hashable κ]

/-- The share of what is in common in the reference; no number without a reference. -/
def recallOf (reference candidate : Counts κ) : Except ArithmeticError δ :=
  if reference.isEmpty then .ok Arithmetic.notANumber
  else quotient δ (reference.overlap candidate) reference.size

/-- The share of what is in common in the candidate; no number without a candidate. -/
def precisionOf (reference candidate : Counts κ) : Except ArithmeticError δ :=
  if candidate.isEmpty then .ok Arithmetic.notANumber
  else quotient δ (reference.overlap candidate) candidate.size

/-- The harmonic mean of precision and recall, the first weighted by `weight`; no number when one of
them is zero. -/
def fMeasure (reference candidate : Counts κ) (weight : δ) : Except ArithmeticError δ := do
  let p ← precisionOf δ reference candidate
  let r ← recallOf δ reference candidate
  if Arithmetic.isZero p || Arithmetic.isZero r then pure Arithmetic.notANumber
  else
    let a ← Arithmetic.div weight p
    let rest ← Arithmetic.sub (Arithmetic.ofInt 1) weight
    let b ← Arithmetic.div rest r
    Arithmetic.div (Arithmetic.ofInt 1) (← Arithmetic.add a b)

inductive AccuracyError where
  | lengths
  | arithmetic (error : ArithmeticError)
  deriving Repr, DecidableEq

def AccuracyError.message : AccuracyError → String
  | lengths => "Sequences must have the same length."
  | arithmetic _ => ""

/-- The share of the places at which two sequences agree. -/
def accuracy {α β : Type} (agree : α → β → Bool) (reference : List α) (candidate : List β) :
    Except AccuracyError δ :=
  if reference.length = candidate.length then
    (quotient δ ((reference.zip candidate).countP fun p => agree p.1 p.2) reference.length).mapError
      .arithmetic
  else .error .lengths

end Measure

/-! ## Percentages -/

namespace Decimal

def half : Decimal := .finite false 5 (-1)

/-- One hundred times a number with two places, in six columns. -/
def percent (d : Decimal) : Except ArithmeticError String :=
  (mul (ofInt 100) d).map fun x => Text.padLeft 6 (Number.fixed 2 x.toFloat)

/-- The text of a division that has no result. -/
def zeroDivision : String := " 0DIV!"

/-- A ratio as a percentage; one whose division has no result is marked, and one that is too great
remains without result. -/
def percentOf (r : Except ArithmeticError Decimal) : Except ArithmeticError String :=
  match r with
  | .ok d => d.percent
  | .error .overflow => .error .overflow
  | .error _ => .ok zeroDivision

/-- A ratio as a percentage, where the ratio is known to be neither a signalling number nor too
great. -/
def percentText (r : Except ArithmeticError Decimal) : String :=
  match percentOf r with
  | .ok s => s
  | .error _ => zeroDivision

end Decimal

end Constituency
