import Constituency.Eval.Measures
import Constituency.Proofs.Eval.Counts
import Mathlib.Data.Rat.Cast.Order
import Mathlib.Tactic.Linarith
import Mathlib.Tactic.Positivity
import Mathlib.Tactic.Ring

/-!
# Measures of counted multisets

Recall and precision depend on the sizes of two multisets and of what they have in common, for any numbers
(`recallOf_eq`, `precisionOf_eq`). As exact ratios they are shares of the intersection (`recallOf_eq_share`,
`precisionOf_eq_share`), and the F-measure is what is in common by the weighted mean of the sizes
(`fMeasure_weighted`). The balanced one lies between the two (`two_mul_div_add_between`), and is one only if
the multisets agree (`fMeasure_eq_one_iff`).
-/
namespace Constituency.Measure

open OrderedMap (IsCounted)

variable {κ : Type} [DecidableEq κ] [Hashable κ] {reference candidate : Counts κ}

theorem recallOf_eq (δ : Type) [Arithmetic δ] (h : IsCounted reference) (candidate : Counts κ) :
    recallOf δ reference candidate =
      if reference.size = 0 then .ok Arithmetic.notANumber
      else quotient δ (reference.overlap candidate) reference.size := by
  simp only [recallOf, Counts.isEmpty_iff h]

theorem precisionOf_eq (δ : Type) [Arithmetic δ] (reference : Counts κ) (h : IsCounted candidate) :
    precisionOf δ reference candidate =
      if candidate.size = 0 then .ok Arithmetic.notANumber
      else quotient δ (reference.overlap candidate) candidate.size := by
  simp only [precisionOf, Counts.isEmpty_iff h]

/-! ### Exact ratios -/

/-- The ratio of two integers, and no number if the second one is zero. -/
def ratioOf (m n : Int) : Ratio := if n = 0 then .undefined else .value (m / n)

theorem div_value (a : Rat) {b : Rat} (hb : b ≠ 0) :
    Arithmetic.div (Ratio.value a) (Ratio.value b) = .ok (.value (a / b)) := by
  change ((if b = 0 then Except.error (if a = 0 then .undefined else .divisionByZero)
    else .ok (a / b)) : Except ArithmeticError Rat).map Ratio.value = _
  rw [if_neg hb]
  rfl

theorem quotient_ratio (m : Int) {n : Int} (hn : n ≠ 0) : quotient Ratio m n = .ok (.value (m / n)) :=
  div_value m (by exact_mod_cast hn)

theorem recallOf_ratio (h : IsCounted reference) (candidate : Counts κ) :
    recallOf Ratio reference candidate = .ok (ratioOf (reference.overlap candidate) reference.size) := by
  rw [recallOf_eq Ratio h, ratioOf]
  split_ifs with hsize
  · rfl
  · exact quotient_ratio _ hsize

theorem precisionOf_ratio (reference : Counts κ) (h : IsCounted candidate) :
    precisionOf Ratio reference candidate =
      .ok (ratioOf (reference.overlap candidate) candidate.size) := by
  rw [precisionOf_eq Ratio reference h, ratioOf]
  split_ifs with hsize
  · rfl
  · exact quotient_ratio _ hsize

/-- The F-measure of a precision and a recall that are not zero. -/
theorem fMeasure_value {p r : Rat} (hprecision : precisionOf Ratio reference candidate = .ok (.value p))
    (hrecall : recallOf Ratio reference candidate = .ok (.value r)) (hp : p ≠ 0) (hr : r ≠ 0) (w : Rat) :
    fMeasure Ratio reference candidate (.value w) =
      Arithmetic.div (Ratio.value 1) (.value (w / p + (1 - w) / r)) := by
  rw [fMeasure, hprecision, hrecall]
  change (if Arithmetic.isZero (Ratio.value p) || Arithmetic.isZero (Ratio.value r) then _ else _) = _
  rw [if_neg (by simp [Arithmetic.isZero, hp, hr]), div_value _ hp]
  change (do
    let b ← Arithmetic.div (Ratio.value (1 - w)) (Ratio.value r)
    let sum ← Arithmetic.add (Ratio.value (w / p)) b
    Arithmetic.div (Arithmetic.ofInt 1) sum) = _
  rw [div_value _ hr]
  rfl

/-- Without anything in common, precision and recall are zero or no numbers. -/
theorem fMeasure_of_overlap_eq_zero (hr : IsCounted reference) (hc : IsCounted candidate)
    (h : reference.overlap candidate = 0) (w : Rat) :
    fMeasure Ratio reference candidate (.value w) = .ok .undefined := by
  rw [fMeasure, precisionOf_ratio reference hc, recallOf_ratio hr, h]
  by_cases hsize : candidate.size = 0 <;> by_cases hsize' : reference.size = 0 <;>
    simp only [ratioOf, hsize, hsize', if_true, if_false, Int.cast_zero, zero_div] <;> rfl

/-- Two multisets with something in common are not empty. -/
theorem size_pos_of_overlap_ne_zero (hr : IsCounted reference) (hc : IsCounted candidate)
    (h : reference.overlap candidate ≠ 0) :
    (0 : Rat) < reference.size ∧ (0 : Rat) < candidate.size := by
  obtain ⟨hnonneg, hle, hle'⟩ := Counts.overlap_bounds hr hc
  have hg : 0 < reference.size := by omega
  have hc' : 0 < candidate.size := by omega
  exact ⟨by exact_mod_cast hg, by exact_mod_cast hc'⟩

/-- The F-measure for a weight is the common part by the weighted mean of the sizes: its last division
is by zero only if this mean is zero. -/
theorem fMeasure_weighted (hr : IsCounted reference) (hc : IsCounted candidate) (w : Rat) :
    fMeasure Ratio reference candidate (.value w) =
      if reference.overlap candidate = 0 then .ok .undefined
      else if w * candidate.size + (1 - w) * reference.size = 0 then .error .divisionByZero
      else .ok (.value
        (reference.overlap candidate / (w * candidate.size + (1 - w) * reference.size))) := by
  by_cases hzero : reference.overlap candidate = 0
  · rw [if_pos hzero]
    exact fMeasure_of_overlap_eq_zero hr hc hzero w
  rw [if_neg hzero]
  have hm : (reference.overlap candidate : Rat) ≠ 0 := by exact_mod_cast hzero
  obtain ⟨hg, hc'⟩ := size_pos_of_overlap_ne_zero hr hc hzero
  have hrecall := recallOf_ratio hr candidate
  have hprecision := precisionOf_ratio reference hc
  rw [ratioOf, if_neg (by exact_mod_cast hg.ne')] at hrecall
  rw [ratioOf, if_neg (by exact_mod_cast hc'.ne')] at hprecision
  have hsum : w / (reference.overlap candidate / candidate.size : Rat) +
      (1 - w) / (reference.overlap candidate / reference.size) =
        (w * candidate.size + (1 - w) * reference.size) / reference.overlap candidate := by
    rw [div_div_eq_mul_div, div_div_eq_mul_div, add_div]
  rw [fMeasure_value hprecision hrecall (div_ne_zero hm hc'.ne') (div_ne_zero hm hg.ne') w, hsum]
  split_ifs with hmean
  · rw [hmean, zero_div]
    rfl
  · rw [div_value _ (div_ne_zero hmean hm), one_div_div]

/-- The weighted mean of two positive numbers is positive. -/
theorem mean_pos {w a b : Rat} (hw : 0 ≤ w ∧ w ≤ 1) (ha : 0 < a) (hb : 0 < b) :
    0 < w * a + (1 - w) * b := by
  have hle : min a b ≤ w * a + (1 - w) * b := by
    have hwa := mul_le_mul_of_nonneg_left (min_le_left a b) hw.1
    have hwb := mul_le_mul_of_nonneg_left (min_le_right a b) (sub_nonneg.mpr hw.2)
    linarith
  exact lt_of_lt_of_le (lt_min ha hb) hle

/-- The balanced F-measure as an exact ratio; it is no number if nothing is in common. -/
theorem fMeasure_ratio (hr : IsCounted reference) (hc : IsCounted candidate) :
    fMeasure Ratio reference candidate (.value (1 / 2)) =
      .ok (if reference.overlap candidate = 0 then .undefined
        else ratioOf (2 * reference.overlap candidate) (reference.size + candidate.size)) := by
  rw [fMeasure_weighted hr hc]
  by_cases hzero : reference.overlap candidate = 0
  · rw [if_pos hzero, if_pos hzero]
  obtain ⟨hg, hc'⟩ := size_pos_of_overlap_ne_zero hr hc hzero
  have hmean := mean_pos (w := 1 / 2) (by norm_num) hc' hg
  have hne : reference.size + candidate.size ≠ 0 := by exact_mod_cast (add_pos hg hc').ne'
  have hsum : (1 / 2 * candidate.size + (1 - 1 / 2) * reference.size : Rat) =
      ((reference.size + candidate.size : Int) : Rat) / 2 := by
    push_cast
    ring
  rw [if_neg hzero, if_neg hmean.ne', if_neg hzero, ratioOf, if_neg hne, hsum,
    div_div_eq_mul_div, Int.cast_mul, mul_comm, Int.cast_ofNat]

/-- The balanced F-measure is one if and only if the multisets agree and are not empty. -/
theorem fMeasure_eq_one_iff (hr : IsCounted reference) (hc : IsCounted candidate) :
    fMeasure Ratio reference candidate (.value (1 / 2)) = .ok (.value 1) ↔
      (0 < reference.size ∨ 0 < candidate.size) ∧ ∀ k, reference.count k = candidate.count k := by
  obtain ⟨hnonneg, hle, hle'⟩ := Counts.overlap_bounds hr hc
  rw [fMeasure_ratio hr hc, ← Counts.two_mul_overlap_eq_iff hr hc, ratioOf]
  by_cases hm : reference.overlap candidate = 0
  · rw [if_pos hm, hm]
    constructor
    · exact fun h => absurd (Except.ok.inj h) (by simp)
    · rintro ⟨hsize, hsum⟩
      omega
  · have hsum : ((reference.size + candidate.size : Int) : Rat) ≠ 0 := by
      have : reference.size + candidate.size ≠ 0 := by omega
      exact_mod_cast this
    rw [if_neg hm, if_neg (by omega), Except.ok.injEq, Ratio.value.injEq, div_eq_one_iff_eq hsum,
      Int.cast_inj]
    constructor
    · exact fun h => ⟨by omega, h⟩
    · exact fun h => h.2

/-! ### Shares of multisets -/

/-- The share of a part in a multiset; no number if the multiset is empty. -/
def share {κ : Type} (part whole : Multiset κ) : Ratio :=
  if whole.card = 0 then .undefined else .value (part.card / whole.card)

theorem share_eq_ratioOf {κ : Type} (part whole : Multiset κ) :
    share part whole = ratioOf part.card whole.card := by
  simp only [share, ratioOf, Nat.cast_eq_zero, Int.cast_natCast]

theorem share_eq_undefined_iff {κ : Type} {part whole : Multiset κ} :
    share part whole = .undefined ↔ whole = 0 := by
  rw [share, ← Multiset.card_eq_zero]
  split_ifs with h <;> simp [h]

/-- The share of a part is between zero and one. -/
theorem share_bounds {κ : Type} {part whole : Multiset κ} (h : part ≤ whole) {q : Rat}
    (hq : share part whole = .value q) : 0 ≤ q ∧ q ≤ 1 := by
  rw [share] at hq
  split_ifs at hq
  rw [← Ratio.value.inj hq]
  have hcard : (part.card : Rat) ≤ whole.card := by exact_mod_cast Multiset.card_le_card h
  exact ⟨by positivity, div_le_one_of_le₀ hcard (by positivity)⟩

theorem recallOf_eq_share (hr : IsCounted reference) (hc : IsCounted candidate) :
    recallOf Ratio reference candidate =
      .ok (share (reference.toMultiset ∩ candidate.toMultiset) reference.toMultiset) := by
  rw [recallOf_ratio hr, share_eq_ratioOf, Counts.card_inter_toMultiset hr hc, Counts.card_toMultiset hr]

theorem precisionOf_eq_share (hr : IsCounted reference) (hc : IsCounted candidate) :
    precisionOf Ratio reference candidate =
      .ok (share (reference.toMultiset ∩ candidate.toMultiset) candidate.toMultiset) := by
  rw [precisionOf_ratio _ hc, share_eq_ratioOf, Counts.card_inter_toMultiset hr hc,
    Counts.card_toMultiset hc]

/-- Precision is the recall of the candidate, for any numbers. -/
theorem precisionOf_comm (δ : Type) [Arithmetic δ] (hr : IsCounted reference) (hc : IsCounted candidate) :
    precisionOf δ reference candidate = recallOf δ candidate reference := by
  rw [precisionOf_eq δ reference hc, recallOf_eq δ hc, Counts.overlap_comm hr hc]

theorem fMeasure_comm (hr : IsCounted reference) (hc : IsCounted candidate) :
    fMeasure Ratio reference candidate (.value (1 / 2)) =
      fMeasure Ratio candidate reference (.value (1 / 2)) := by
  rw [fMeasure_ratio hr hc, fMeasure_ratio hc hr, Counts.overlap_comm hr hc, add_comm reference.size]

theorem inter_toMultiset_eq_zero_iff (hr : IsCounted reference) (hc : IsCounted candidate) :
    reference.toMultiset ∩ candidate.toMultiset = 0 ↔ reference.overlap candidate = 0 := by
  rw [← Multiset.card_eq_zero, ← Counts.card_inter_toMultiset hr hc, Nat.cast_eq_zero]

/-- The balanced F-measure is twice the size of the intersection by the sum of the sizes. -/
theorem fMeasure_eq_mean (hr : IsCounted reference) (hc : IsCounted candidate)
    (h : reference.toMultiset ∩ candidate.toMultiset ≠ 0) :
    fMeasure Ratio reference candidate (.value (1 / 2)) =
      .ok (.value (2 * (reference.toMultiset ∩ candidate.toMultiset).card /
        (reference.toMultiset.card + candidate.toMultiset.card))) := by
  have hzero := mt (inter_toMultiset_eq_zero_iff hr hc).mpr h
  obtain ⟨hg, hc'⟩ := size_pos_of_overlap_ne_zero hr hc hzero
  have hne : reference.size + candidate.size ≠ 0 := by exact_mod_cast (add_pos hg hc').ne'
  rw [fMeasure_ratio hr hc, if_neg hzero, ratioOf, if_neg hne, ← Counts.card_inter_toMultiset hr hc,
    ← Counts.card_toMultiset hr, ← Counts.card_toMultiset hc]
  push_cast
  rfl

/-- The balanced F-measure of multisets with something in common is one if and only if they are equal. -/
theorem fMeasure_eq_one_iff_toMultiset_eq (hr : IsCounted reference) (hc : IsCounted candidate)
    (h : reference.toMultiset ∩ candidate.toMultiset ≠ 0) :
    fMeasure Ratio reference candidate (.value (1 / 2)) = .ok (.value 1) ↔
      reference.toMultiset = candidate.toMultiset := by
  have hzero := mt (inter_toMultiset_eq_zero_iff hr hc).mpr h
  have hsize : 0 < reference.size := by exact_mod_cast (size_pos_of_overlap_ne_zero hr hc hzero).1
  rw [fMeasure_eq_one_iff hr hc, Counts.toMultiset_inj hr hc]
  exact and_iff_right (Or.inl hsize)

/-- With the weight between zero and one, the last division of the F-measure is not by zero. -/
theorem fMeasure_ok (hr : IsCounted reference) (hc : IsCounted candidate) {w : Rat}
    (hw : 0 ≤ w ∧ w ≤ 1) : ∃ f, fMeasure Ratio reference candidate (.value w) = .ok f := by
  rw [fMeasure_weighted hr hc]
  by_cases hzero : reference.overlap candidate = 0
  · exact ⟨_, if_pos hzero⟩
  · obtain ⟨hg, hc'⟩ := size_pos_of_overlap_ne_zero hr hc hzero
    rw [if_neg hzero, if_neg (mean_pos hw hc' hg).ne']
    exact ⟨_, rfl⟩

/-- Twice a number by a sum is between its quotients by the summands. -/
theorem two_mul_div_add_between {m a b : Rat} (hm : 0 ≤ m) (ha : 0 < a) (hb : 0 < b) :
    min (m / a) (m / b) ≤ 2 * m / (a + b) ∧ 2 * m / (a + b) ≤ max (m / a) (m / b) := by
  wlog hab : a ≤ b generalizing a b with hswap
  · rw [min_comm, max_comm, add_comm]
    exact hswap hb ha (le_of_not_ge hab)
  have hsum : 0 < a + b := add_pos ha hb
  constructor
  · refine min_le_of_right_le ?_
    rw [div_le_div_iff₀ hb hsum]
    linarith [mul_le_mul_of_nonneg_left hab hm]
  · refine le_max_of_le_left ?_
    rw [div_le_div_iff₀ hsum ha]
    linarith [mul_le_mul_of_nonneg_left hab hm]

/-- What recall `r`, precision `p` and balanced F-measure `f` say of a reference `g` and a candidate `c`. -/
structure AreMeasures (g c : Multiset κ) (r p f : Ratio) : Prop where
  recall_eq : r = share (g ∩ c) g
  precision_eq : p = share (g ∩ c) c
  recall_undefined : r = .undefined ↔ g = 0
  precision_undefined : p = .undefined ↔ c = 0
  bounds : ∀ q, r = .value q ∨ p = .value q → 0 ≤ q ∧ q ≤ 1
  undefined : g ∩ c = 0 → f = .undefined
  mean : g ∩ c ≠ 0 → f = .value (2 * (g ∩ c).card / (g.card + c.card))
  between : g ∩ c ≠ 0 → ∃ x y z, p = .value x ∧ r = .value y ∧ f = .value z ∧ min x y ≤ z ∧ z ≤ max x y
  one : g ∩ c ≠ 0 → (f = .value 1 ↔ g = c)

/-- With something in common, the balanced F-measure is between precision and recall. -/
theorem fMeasure_between {κ : Type} [DecidableEq κ] {g c : Multiset κ} (h : g ∩ c ≠ 0) :
    ∃ x y : Rat, share (g ∩ c) c = .value x ∧ share (g ∩ c) g = .value y ∧
      min x y ≤ 2 * (g ∩ c).card / (g.card + c.card) ∧
      2 * (g ∩ c).card / (g.card + c.card) ≤ max x y := by
  -- both multisets have what is in common
  have hg : g.card ≠ 0 := fun hg => h (by rw [Multiset.card_eq_zero.mp hg, Multiset.zero_inter])
  have hc : c.card ≠ 0 := fun hc => h (by rw [Multiset.card_eq_zero.mp hc, Multiset.inter_zero])
  refine ⟨_, _, if_neg hc, if_neg hg, ?_⟩
  rw [add_comm]
  apply two_mul_div_add_between
  · exact Nat.cast_nonneg _
  · exact Nat.cast_pos.mpr (Nat.pos_of_ne_zero hc)
  · exact Nat.cast_pos.mpr (Nat.pos_of_ne_zero hg)

/-- Recall, precision and F-measure of two multisets never divide by zero, and the two sides may be
exchanged. -/
theorem exists_areMeasures (hr : IsCounted reference) (hc : IsCounted candidate) :
    (∃ r p f, recallOf Ratio reference candidate = .ok r ∧ precisionOf Ratio reference candidate = .ok p ∧
      fMeasure Ratio reference candidate (.value (1 / 2)) = .ok f ∧
      AreMeasures reference.toMultiset candidate.toMultiset r p f) ∧
    precisionOf Ratio reference candidate = recallOf Ratio candidate reference ∧
    fMeasure Ratio reference candidate (.value (1 / 2)) =
      fMeasure Ratio candidate reference (.value (1 / 2)) ∧
    ∀ w : Rat, 0 ≤ w ∧ w ≤ 1 → ∃ f, fMeasure Ratio reference candidate (.value w) = .ok f := by
  obtain ⟨f, hf⟩ := fMeasure_ok hr hc (w := 1 / 2) (by norm_num)
  have hmean (h : reference.toMultiset ∩ candidate.toMultiset ≠ 0) :=
    Except.ok.inj (hf.symm.trans (fMeasure_eq_mean hr hc h))
  refine ⟨⟨_, _, f, recallOf_eq_share hr hc, precisionOf_eq_share hr hc, hf, ?_⟩,
    precisionOf_comm Ratio hr hc, fMeasure_comm hr hc, fun w hw => fMeasure_ok hr hc hw⟩
  exact
    { recall_eq := rfl
      precision_eq := rfl
      recall_undefined := share_eq_undefined_iff
      precision_undefined := share_eq_undefined_iff
      bounds := fun q hq =>
        hq.elim (share_bounds Multiset.inter_le_left) (share_bounds Multiset.inter_le_right)
      undefined := fun h => by
        have hzero := (inter_toMultiset_eq_zero_iff hr hc).mp h
        exact Except.ok.inj (hf.symm.trans (fMeasure_of_overlap_eq_zero hr hc hzero _))
      mean := hmean
      between := fun h => by
        obtain ⟨x, y, hx, hy, hbounds⟩ := fMeasure_between h
        exact ⟨x, y, _, hx, hy, hmean h, hbounds⟩
      one := fun h => by
        rw [← fMeasure_eq_one_iff_toMultiset_eq hr hc h, hf, Except.ok.injEq] }

/-- Two brackets are common to three and to four. -/
theorem exists_areMeasures_sharedBrackets :
    let g : Counts Nat := .ofList [1, 1, 2]
    let c : Counts Nat := .ofList [1, 2, 2, 3]
    IsCounted g ∧ IsCounted c ∧ recallOf Ratio g c = .ok (.value (2 / 3)) ∧
      precisionOf Ratio g c = .ok (.value (2 / 4)) ∧
      fMeasure Ratio g c (.value (1 / 2)) = .ok (.value (4 / 7)) := by
  intro g c
  have hg : IsCounted g := Counts.isCounted_ofList _
  have hc : IsCounted c := Counts.isCounted_ofList _
  obtain ⟨⟨r, p, f, hrecall, hprecision, hf, h⟩, -⟩ := exists_areMeasures hg hc
  have hgold : g.toMultiset = ↑[1, 1, 2] := Counts.toMultiset_ofList _
  have hcandidate : c.toMultiset = ↑[1, 2, 2, 3] := Counts.toMultiset_ofList _
  rw [hgold, hcandidate] at h
  have hcard : ((↑[1, 1, 2] : Multiset Nat) ∩ ↑[1, 2, 2, 3]).card = 2 := by decide
  have hmean := h.mean (by decide)
  refine ⟨hg, hc, ?_, ?_, ?_⟩
  · rw [hrecall, h.recall_eq, share, if_neg (by decide), hcard]
    rfl
  · rw [hprecision, h.precision_eq, share, if_neg (by decide), hcard]
    rfl
  · rw [hf, hmean, hcard]
    exact congrArg (fun q => Except.ok (Ratio.value q)) (by norm_num)

end Constituency.Measure
