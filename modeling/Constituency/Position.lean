/-!
# Positions

Items of a sequence are addressed by position: from the front, starting at zero, or, with a negative
number, from the end, the last item being at -1.
-/
namespace Constituency

/-- The place in a list of length `n` that a position names, if it lies inside. -/
def position? (n : Nat) (i : Int) : Option Nat :=
  let j := if i < 0 then i + n else i
  if 0 ≤ j ∧ j < n then some j.toNat else none

theorem position?_lt {n : Nat} {i : Int} {k : Nat} (h : position? n i = some k) : k < n := by
  simp only [position?] at h
  split at h <;> simp only [Option.ite_none_right_eq_some, Option.some.injEq] at h <;> omega

/-- The place in a list of length `n` before which a position names a gap, moved to the nearest end
when it lies outside. -/
def insertPosition (n : Nat) (i : Int) : Nat :=
  let j := if i < 0 then i + n else i
  (max 0 (min j n)).toNat

/-- Whether a number is a signed one of 64 bits. -/
def isReachable (i : Int) : Bool := -9223372036854775808 ≤ i && i < 9223372036854775808

theorem isReachable_iff {i : Int} :
    isReachable i = true ↔ -9223372036854775808 ≤ i ∧ i < 9223372036854775808 := by
  simp [isReachable]

/-- Why a number names no place of a table. -/
inductive PlaceError where
  /-- There is no such place. -/
  | missing
  /-- The number has 64 bits only without a sign. -/
  | outOfReach
  deriving Repr, DecidableEq

/-- Why numbers name no place of a table: the first one that is no signed one of 64 bits decides, and
one without a sign is told apart from one that is longer still. -/
def PlaceError.ofNumbers (is : List Int) : PlaceError :=
  match is.find? fun i => !isReachable i with
  | some i => if 0 ≤ i && i < 18446744073709551616 then outOfReach else missing
  | none => missing

def itemAt? {α : Type} (xs : List α) (i : Int) : Option α := (position? xs.length i).bind (xs[·]?)

/-- A position from the front names the place of the same number. -/
theorem position?_natCast {n k : Nat} (h : k < n) : position? n k = some k := by
  simp only [position?]
  have h₁ : ¬ (k : Int) < 0 := by omega
  simp only [h₁, if_false]
  simp [h]

@[simp] theorem itemAt?_natCast {α : Type} (xs : List α) (k : Nat) : itemAt? xs k = xs[k]? := by
  by_cases h : k < xs.length
  · simp [itemAt?, position?_natCast h]
  · have : position? xs.length k = none := by
      simp only [position?]
      have h₁ : ¬ (k : Int) < 0 := by omega
      simp only [h₁, if_false]
      simp [h]
    simp [itemAt?, this, h]

end Constituency
