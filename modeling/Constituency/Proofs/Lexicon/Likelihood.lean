import Constituency.Proofs.Lexicon.Types
import Mathlib.Algebra.Order.Archimedean.Basic
import Mathlib.Algebra.Order.Field.Basic
import Mathlib.Tactic.FieldSimp
import Mathlib.Tactic.Linarith
import Mathlib.Tactic.Positivity

/-!
# Bounds of likelihoods

In exact numbers the probability of a tag for a word is at most one (`pairWeight_le_wordWeight`), but a
known word is given one more occurrence, and a rare word yet another one together with a share of the new
words with the tag. So a likelihood can be above one. It is below nine fourths, whatever was counted
(`likelihood_lt`), and there are likelihoods as near to this bound as one likes unless no known word is
smoothed (`exists_likelihood_gt`). It is at most one for a tag that was counted at least two times more
than the word (`likelihood_le_one`).
-/
namespace Constituency.Lexicon

variable {ρ : Type} [Probability ρ] [Field ρ] [LinearOrder ρ] [LawfulProbability ρ]
  {rareThreshold : Int} {pairs : List (Word × String)} {x : Lexicon} {w : Word} {tag : String} {q : ρ}

theorem wordWeight_le (w : Word) (x : Lexicon) : x.wordWeight w ≤ x.words.count w + 1 := by
  rw [wordWeight]
  split_ifs
  · exact le_rfl
  · exact Nat.le_succ _

/-- A likelihood in exact numbers. -/
theorem likelihood_eq (h : x.estimate? ρ w tag = some (.likelihood q)) :
    x.wordWeight w ≠ 0 ∧ q = x.pairWeight ρ w tag / x.tags.count tag *
      ((1 + x.wordWeight w) / x.wordWeight w) * (x.tokens / (x.tokens + x.types)) := by
  have hcounted := counted_of_likelihood h
  rw [estimate?, if_neg (not_or.mpr hcounted)] at h
  obtain ⟨p, hp, hq⟩ := Option.map_eq_some_iff.mp h
  rw [tagGivenWord?] at hp
  split_ifs at hp with hword
  split_ifs at hq
  refine ⟨hword, ?_⟩
  rw [Option.some.injEq, LawfulProbability.div_eq, LawfulProbability.ofNat_eq] at hp
  rw [Estimate.likelihood.injEq, LawfulProbability.mul_eq, LawfulProbability.div_eq, ← hp, tagShare,
    wordShare, Probability.share_eq, Probability.share_eq] at hq
  have htokens : (x.tokens : ρ) ≠ 0 := Nat.cast_ne_zero.mpr hcounted.1
  have htag : (x.tags.count tag : ρ) ≠ 0 := Nat.cast_ne_zero.mpr hcounted.2
  rw [← hq, Nat.cast_add, Nat.cast_add, Nat.cast_one]
  field_simp

section Bounds

variable (ht : CountedTypes pairs x) (hx : Counted rareThreshold pairs x)

include ht hx

/-- The probability of a tag for a word is at most one. -/
theorem pairWeight_le_wordWeight (w : Word) (tag : String) :
    x.pairWeight ρ w tag ≤ x.wordWeight w := by
  have hpair : (x.pairCount w tag : ρ) ≤ x.words.count w :=
    Nat.cast_le.mpr (hx.pairCount_le_words w tag)
  by_cases hrare : x.isRare w = true
  · have hshare : (x.typeTags.count tag / x.types : ρ) ≤ 1 := by
      rw [← Probability.share_eq]
      exact Probability.share_le_one (ht.typeTags_le_types tag)
    rw [pairWeight_of_isRare ρ w tag hrare, wordWeight, if_pos hrare, Nat.cast_add, Nat.cast_one]
    exact add_le_add hpair hshare
  · rw [pairWeight_of_not_isRare ρ w tag hrare, wordWeight, if_neg hrare, Nat.add_zero]
    exact hpair

/-- Only rare words that are known count more often with a tag than the tag does. -/
theorem pairWeight_le_tags (w : Word) (tag : String)
    (h : ¬ (x.isRare w = true ∧ x.words.count w ≠ 0)) :
    x.pairWeight ρ w tag ≤ x.tags.count tag := by
  have hpair : (x.pairCount w tag : ρ) ≤ x.tags.count tag :=
    Nat.cast_le.mpr (hx.pairCount_le_tags w tag)
  by_cases hrare : x.isRare w = true
  · have hzero : x.pairCount w tag = 0 := by
      have hle := hx.pairCount_le_words w tag
      have hnew := not_not.mp (not_and.mp h hrare)
      omega
    have hnew : (x.typeTags.count tag : ρ) ≤ x.tags.count tag :=
      Nat.cast_le.mpr (ht.typeTags_le_tags hx tag)
    rw [pairWeight_of_isRare ρ w tag hrare, hzero, Nat.cast_zero, zero_add]
    refine le_trans ?_ hnew
    rcases Nat.eq_zero_or_pos x.types with htypes | htypes
    · rw [htypes, Nat.cast_zero, div_zero]
      exact Nat.cast_nonneg _
    · exact div_le_self (Nat.cast_nonneg _) (Nat.one_le_cast.mpr htypes)
  · rw [pairWeight_of_not_isRare ρ w tag hrare]
    exact hpair

/-- The new words with a tag are at most the occurrences of the tag. -/
theorem pairWeight_le_mul (w : Word) (tag : String) :
    x.pairWeight ρ w tag ≤ (1 + 1 / x.types) * x.tags.count tag := by
  have hpair : (x.pairCount w tag : ρ) ≤ x.tags.count tag :=
    Nat.cast_le.mpr (hx.pairCount_le_tags w tag)
  have hnew : (x.typeTags.count tag / x.types : ρ) ≤ x.tags.count tag / x.types :=
    div_le_div_of_nonneg_right (Nat.cast_le.mpr (ht.typeTags_le_tags hx tag)) (Nat.cast_nonneg _)
  have hsplit : ((1 + 1 / x.types) * x.tags.count tag : ρ) =
      x.tags.count tag + x.tags.count tag / x.types := by
    rw [add_mul, one_mul, one_div_mul_eq_div]
  rw [hsplit]
  by_cases hrare : x.isRare w = true
  · rw [pairWeight_of_isRare ρ w tag hrare]
    exact add_le_add hpair hnew
  · rw [pairWeight_of_not_isRare ρ w tag hrare]
    exact le_add_of_le_of_nonneg hpair (by positivity)

end Bounds

section Likelihood

variable (h : x.estimate? ρ w tag = some (.likelihood q))

include h

/-- A likelihood is a product of three: the weight of the word with the tag in the count of the tag, the
additional occurrence of the word, and the share of the occurrences in all that is counted. -/
theorem likelihood_le_mul {a : ρ} {m : Nat} (hm : 0 < m) (hmn : m ≤ x.wordWeight w) (ha : 0 ≤ a)
    (hpair : x.pairWeight ρ w tag ≤ a * x.tags.count tag) :
    q ≤ a * (1 + 1 / m) * (x.tokens / (x.tokens + x.types)) := by
  have hcounted := counted_of_likelihood h
  obtain ⟨-, rfl⟩ := likelihood_eq h
  have hc : (0 : ρ) < x.tags.count tag := Nat.cast_pos.mpr (Nat.pos_of_ne_zero hcounted.2)
  have hm' : (0 : ρ) < m := Nat.cast_pos.mpr hm
  have hn : (m : ρ) ≤ x.wordWeight w := Nat.cast_le.mpr hmn
  have htag : x.pairWeight ρ w tag / x.tags.count tag ≤ a := (div_le_iff₀ hc).mpr hpair
  have hword : ((1 + x.wordWeight w) / x.wordWeight w : ρ) ≤ 1 + 1 / m := by
    rw [add_comm, add_div, div_self (hm'.trans_le hn).ne']
    gcongr
  gcongr

/-- When a likelihood is at most one. -/
theorem likelihood_le_one_iff : q ≤ 1 ↔ x.pairWeight ρ w tag * ((1 + x.wordWeight w) * x.tokens) ≤
    x.wordWeight w * (x.tags.count tag * (x.tokens + x.types)) := by
  obtain ⟨htokens, htag⟩ := counted_of_likelihood h
  obtain ⟨hword, rfl⟩ := likelihood_eq h
  have hn : (0 : ρ) < x.wordWeight w := Nat.cast_pos.mpr (Nat.pos_of_ne_zero hword)
  have hc : (0 : ρ) < x.tags.count tag := Nat.cast_pos.mpr (Nat.pos_of_ne_zero htag)
  have hall : (0 : ρ) < x.tokens + x.types :=
    add_pos_of_pos_of_nonneg (Nat.cast_pos.mpr (Nat.pos_of_ne_zero htokens)) (Nat.cast_nonneg _)
  rw [div_mul_div_comm, div_mul_div_comm, div_le_one (by positivity), mul_assoc,
    mul_comm (x.tags.count tag : ρ), mul_assoc]

variable (hx : Counted rareThreshold pairs x)

include hx

theorem tokens_div_lt_one : (x.tokens / (x.tokens + x.types) : ρ) < 1 := by
  have hcounted := (counted_of_likelihood h).1
  have htokens : (0 : ρ) < x.tokens := Nat.cast_pos.mpr (Nat.pos_of_ne_zero hcounted)
  rw [div_lt_one (by positivity)]
  exact lt_add_of_pos_right _ (Nat.cast_pos.mpr (hx.types_pos_of_tokens hcounted))

variable (ht : CountedTypes pairs x)

include ht

/-- A likelihood is at most one when the tag was counted two times more than the word. -/
theorem likelihood_le_one (hcount : x.words.count w + 2 ≤ x.tags.count tag) : q ≤ 1 := by
  have hshare := (tokens_div_lt_one h hx).le
  obtain ⟨hword, rfl⟩ := likelihood_eq h
  have hle : x.pairWeight ρ w tag ≤ x.wordWeight w := pairWeight_le_wordWeight ht hx w tag
  have hn : (0 : ρ) < x.wordWeight w := Nat.cast_pos.mpr (Nat.pos_of_ne_zero hword)
  have hc : (0 : ρ) < x.tags.count tag := Nat.cast_pos.mpr (by omega)
  have hnc : (1 + x.wordWeight w : ρ) ≤ x.tags.count tag := by
    have hnat : 1 + x.wordWeight w ≤ x.tags.count tag := by
      have hweight := wordWeight_le w x
      omega
    exact_mod_cast hnat
  calc x.pairWeight ρ w tag / x.tags.count tag * ((1 + x.wordWeight w) / x.wordWeight w) *
        (x.tokens / (x.tokens + x.types))
      ≤ x.wordWeight w / x.tags.count tag * ((1 + x.wordWeight w) / x.wordWeight w) * 1 := by
        gcongr
    _ = (1 + x.wordWeight w) / x.tags.count tag := by field_simp
    _ ≤ 1 := (div_le_one hc).mpr hnc

/-- When there is one type only, all occurrences are of the word, which has one of them in addition. -/
theorem likelihood_le_two_of_types_eq_one (hone : x.types = 1) (hrare : x.isRare w = true)
    (hknown : x.words.count w ≠ 0) : q ≤ 2 := by
  have hweight : x.wordWeight w = x.tokens + 1 := by
    rw [wordWeight, if_pos hrare, ht.words_eq_tokens hx hone hknown]
  have hle := likelihood_le_mul h (Nat.succ_pos _) hweight.ge (by positivity)
    (pairWeight_le_mul ht hx w tag)
  rw [hone, Nat.cast_one, div_one, Nat.cast_succ] at hle
  have hless : (1 + 1 / (x.tokens + 1)) * (x.tokens / (x.tokens + 1)) ≤ (1 : ρ) := by
    rw [one_add_div (by positivity), div_mul_div_comm, div_le_one (by positivity)]
    linarith
  linarith

/-- No likelihood reaches nine fourths, whatever the threshold is. -/
theorem likelihood_lt : q < 9 / 4 := by
  have hword := (likelihood_eq h).1
  have hshare := tokens_div_lt_one h hx
  by_cases hrare : x.isRare w = true ∧ x.words.count w ≠ 0
  · have htypes := hx.types_pos_of_tokens (counted_of_likelihood h).1
    rcases Nat.eq_or_lt_of_le htypes with hone | hmore
    · have hle := likelihood_le_two_of_types_eq_one h hx ht hone.symm hrare.1 hrare.2
      linarith
    · have htwo : 2 ≤ x.wordWeight w := by
        rw [wordWeight, if_pos hrare.1]
        omega
      have hhalf : (1 + 1 / x.types : ρ) ≤ 3 / 2 := by
        have hcast : (2 : ρ) ≤ x.types := Nat.ofNat_le_cast.mpr hmore
        have hinv : (1 / x.types : ρ) ≤ 1 / 2 := by gcongr
        linarith
      have hle := likelihood_le_mul h two_pos htwo (by positivity)
        ((pairWeight_le_mul ht hx w tag).trans (mul_le_mul_of_nonneg_right hhalf (Nat.cast_nonneg _)))
      rw [Nat.cast_ofNat] at hle
      linarith
  · have hpair : x.pairWeight ρ w tag ≤ 1 * x.tags.count tag := by
      rw [one_mul]
      exact pairWeight_le_tags ht hx w tag hrare
    have hle := likelihood_le_mul h one_pos (Nat.one_le_iff_ne_zero.mpr hword) zero_le_one hpair
    rw [Nat.cast_one] at hle
    linarith

end Likelihood

section Sharpness

/-- A word with a tag of its own, and another word that occurs some more times. -/
def skewedPairs (n : Nat) : List (Word × String) :=
  [(some "a", "A"), (some "b", "B")] ++ List.replicate n (some "b", "B")

theorem firsts_skewedPairs (n : Nat) : firsts (skewedPairs n) = [(some "a", "A"), (some "b", "B")] := by
  rw [skewedPairs, firsts_append_of_mem]
  · rfl
  · intro p hp
    rw [List.eq_of_mem_replicate hp]
    decide

/-- The likelihood of the word that occurs once, under its tag. -/
theorem likelihood_skewedPairs {n : Nat} (ht : CountedTypes (skewedPairs n) x)
    (hx : Counted rareThreshold (skewedPairs n) x) (h : 2 ≤ rareThreshold) :
    x.estimate? ρ (some "a") "A" = some (.likelihood (9 / 4 * ((n + 2) / (n + 4)))) := by
  have hmem : (some "a", "A") ∈ skewedPairs n := List.mem_append_left _ List.mem_cons_self
  obtain ⟨q, hq⟩ := hx.exists_likelihood (ρ := ρ) hmem
  have hword : x.words.count (some "a") = 1 := by
    simp [hx.words_count, skewedPairs, List.count_replicate]
  have htag : x.tags.count "A" = 1 := by
    simp [hx.tags_count, skewedPairs, List.count_replicate]
  have hpair : x.pairCount (some "a") "A" = 1 := by
    simp [hx.pairCount_eq, skewedPairs, List.count_replicate]
  have htokens : x.tokens = n + 2 := by
    simp [hx.tokens_eq, skewedPairs]
  have htypes : x.types = 2 := by
    rw [ht.types_eq, firsts_skewedPairs]
    rfl
  have hnew : x.typeTags.count "A" = 1 := by
    rw [ht.typeTags_count, firsts_skewedPairs]
    rfl
  have hrare : x.isRare (some "a") = true := by
    rw [isRare, hword, hx.rareThreshold_eq, decide_eq_true_eq]
    omega
  rw [hq, (likelihood_eq hq).2, pairWeight_of_isRare ρ _ _ hrare, wordWeight, if_pos hrare, hword, htag,
    hpair, htokens, htypes, hnew]
  push_cast
  rw [add_assoc (n : ρ)]
  norm_num

/-- There are likelihoods above every number below nine fourths. -/
theorem exists_likelihood_gt (h : 2 ≤ rareThreshold) {b : Rat} (hb : b < 9 / 4) :
    ∃ (pairs : List (Word × String)) (w : Word) (tag : String) (q : Rat),
      ((empty rareThreshold).addAll pairs).estimate? Rat w tag = some (.likelihood q) ∧ b < q := by
  obtain ⟨n, hn⟩ := exists_nat_gt (9 / 2 / (9 / 4 - b))
  refine ⟨skewedPairs n, some "a", "A", _,
    likelihood_skewedPairs (countedTypes_addAll _ _) (counted_addAll _ _) h, ?_⟩
  have hpos : (0 : Rat) < n + 4 := by positivity
  rw [div_lt_iff₀ (sub_pos.mpr hb)] at hn
  rw [← mul_div_assoc, lt_div_iff₀ hpos]
  linarith

end Sharpness

end Constituency.Lexicon
