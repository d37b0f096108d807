import Constituency.Lexicon
import Constituency.Proofs.OrderedMap
import Constituency.Proofs.Probability
import Constituency.Proofs.Tree.Traversal
import Mathlib.Data.List.Count
import Mathlib.Data.List.Induction

/-!
# Counts of a lexicon

A lexicon has counted every word, every tag and every pair of both as often as it was added
(`counted_addAll`). It gives up on a word that was never added, and only when no word is smoothed
(`score?_eq_none_iff`, `wordWeight_eq_zero_iff`). In exact numbers all that it estimates is positive
(`likelihood_pos`), and a word has an estimate for every tag that it was added with
(`exists_likelihood`).
-/
namespace Constituency

namespace Tree

/-- A tag is listed for a word if and only if there is a node over the word with this label. -/
theorem mem_tagged {t : Tree} {w : Word} {l : String} :
    (w, l) ∈ t.tagged ↔ node l [leaf w] ∈ t.nodes := by
  rw [tagged, subtrees_eq, ← nodes_eq, List.mem_filterMap]
  simp only [List.mem_filter]
  constructor
  · rintro ⟨u, ⟨hu, -⟩, hpair⟩
    split at hpair
    · rw [Option.some.injEq, Prod.mk.injEq] at hpair
      obtain ⟨rfl, rfl⟩ := hpair
      exact hu
    · exact absurd hpair (by simp)
  · intro h
    exact ⟨_, ⟨h, rfl⟩, rfl⟩

end Tree

namespace Lexicon

/-- What a lexicon has counted after some words with their tags. -/
structure Counted (rareThreshold : Int) (pairs : List (Word × String)) (x : Lexicon) : Prop where
  rareThreshold_eq : x.rareThreshold = rareThreshold
  tokens_eq : x.tokens = pairs.length
  tags_count : ∀ tag, x.tags.count tag = (pairs.map Prod.snd).count tag
  words_count : ∀ w, x.words.count w = (pairs.map Prod.fst).count w
  pairCount_eq : ∀ w tag, x.pairCount w tag = pairs.count (w, tag)
  isCounted_words : x.words.IsCounted
  types_pos : pairs ≠ [] → 0 < x.types

theorem counted_empty (rareThreshold : Int) : Counted rareThreshold [] (empty rareThreshold) where
  rareThreshold_eq := rfl
  tokens_eq := rfl
  tags_count _ := rfl
  words_count _ := rfl
  pairCount_eq _ _ := rfl
  isCounted_words := OrderedMap.isCounted_empty
  types_pos h := absurd rfl h

variable {rareThreshold : Int} {pairs : List (Word × String)} {x : Lexicon}

theorem pairCount_add (x : Lexicon) (w v : Word) (tag t : String) :
    (x.add w tag).pairCount v t =
      x.pairCount v t + if (w, tag) = (v, t) then 1 else 0 := by
  unfold pairCount add
  rw [OrderedMap.get?_alter]
  by_cases hw : w = v
  · subst hw
    by_cases ht : tag = t <;> simp [ht]
  · simp [hw]

theorem Counted.known_iff (h : Counted rareThreshold pairs x) (w : Word) :
    x.known w = true ↔ ∃ tag, (w, tag) ∈ pairs := by
  rw [known, h.isCounted_words.contains_iff, ← Tally.count, h.words_count, ← Nat.pos_iff_ne_zero,
    List.count_pos_iff, List.mem_map]
  constructor
  · rintro ⟨⟨v, tag⟩, hp, rfl⟩
    exact ⟨tag, hp⟩
  · rintro ⟨tag, hp⟩
    exact ⟨_, hp, rfl⟩

/-- The tags with an occurrence are those that were added. -/
theorem Counted.tags_count_ne_zero_iff (h : Counted rareThreshold pairs x) {tag : String} :
    x.tags.count tag ≠ 0 ↔ tag ∈ pairs.map Prod.snd := by
  rw [h.tags_count, ← Nat.pos_iff_ne_zero, List.count_pos_iff]

theorem Counted.pairCount_pos_iff (h : Counted rareThreshold pairs x) {w : Word} {tag : String} :
    0 < x.pairCount w tag ↔ (w, tag) ∈ pairs := by
  rw [h.pairCount_eq, List.count_pos_iff]

/-- Counting one more occurrence. -/
theorem Counted.add (h : Counted rareThreshold pairs x) (w : Word) (tag : String) :
    Counted rareThreshold (pairs ++ [(w, tag)]) (x.add w tag) where
  rareThreshold_eq := h.rareThreshold_eq
  tokens_eq := by simp [Lexicon.add, h.tokens_eq]
  tags_count t := by
    have hold := h.tags_count t
    rw [Lexicon.add, Tally.count_bump, List.map_append, List.count_append, hold]
    by_cases ht : tag = t <;> simp [ht]
  words_count v := by
    have hold := h.words_count v
    rw [Lexicon.add, Tally.count_bump, List.map_append, List.count_append, hold]
    by_cases hv : w = v <;> simp [hv]
  pairCount_eq v t := by
    rw [pairCount_add, h.pairCount_eq, List.count_append, List.count_singleton]
    simp only [beq_iff_eq]
  isCounted_words := h.isCounted_words.bump w
  types_pos _ := by
    rw [Lexicon.add]
    dsimp only
    split_ifs with hknown
    · obtain ⟨t, ht⟩ := (h.known_iff w).mp hknown
      exact h.types_pos (List.ne_nil_of_mem ht)
    · exact Nat.succ_pos _

/-- Everything that was added has been counted. -/
theorem counted_addAll (rareThreshold : Int) (pairs : List (Word × String)) :
    Counted rareThreshold pairs ((empty rareThreshold).addAll pairs) := by
  induction pairs using List.reverseRecOn with
  | nil => exact counted_empty rareThreshold
  | append_singleton pairs p ih =>
    rw [addAll, List.foldl_append]
    exact ih.add p.1 p.2

theorem wordWeight_eq_zero_iff (x : Lexicon) (w : Word) :
    x.wordWeight w = 0 ↔ x.words.count w = 0 ∧ x.rareThreshold ≤ 0 := by
  have hrare : x.isRare w = true ↔ (x.words.count w : Int) < x.rareThreshold := decide_eq_true_iff
  unfold wordWeight
  by_cases h : x.isRare w = true
  · have hlt := hrare.mp h
    rw [if_pos h]
    omega
  · have hle := Int.not_lt.mp (hrare.not.mp h)
    rw [if_neg h]
    omega

/-- Words that were never added are smoothed when the threshold is positive. -/
theorem Counted.wordWeight_ne_zero (h : Counted rareThreshold pairs x) (hrare : 1 ≤ rareThreshold) (w : Word) :
    x.wordWeight w ≠ 0 := by
  rw [Ne, wordWeight_eq_zero_iff, h.rareThreshold_eq]
  omega

section Score

variable {σ ρ : Type} [Score σ] [Probability ρ] [LogScale σ ρ]

/-- A lexicon gives up on a word that counts as never seen, for the tags that it knows. -/
theorem score?_eq_none_iff (x : Lexicon) (w : Word) (tag : String) :
    (x.score? w tag : Option σ) = none ↔
      x.tokens ≠ 0 ∧ x.tags.count tag ≠ 0 ∧ x.wordWeight w = 0 := by
  rw [score?, Option.map_eq_none_iff, estimate?]
  split_ifs with himpossible
  · rcases himpossible with h | h <;> simp [h]
  · rw [not_or] at himpossible
    simp [tagGivenWord?, himpossible]

/-- A score of what can be done is that of a tag that has been counted. -/
theorem tags_count_ne_zero_of_isFinite {x : Lexicon} {w : Word} {tag : String} {s : σ}
    (hbottom : Score.isFinite (Score.bottom : σ) = false) (hs : x.score? w tag = some s)
    (hfinite : Score.isFinite s = true) : x.tags.count tag ≠ 0 := by
  intro hzero
  rw [score?, estimate?, if_pos (Or.inr hzero), Option.map_some, Option.some.injEq] at hs
  rw [← hs, hbottom] at hfinite
  exact absurd hfinite (by decide)

end Score

section Exact

variable {ρ : Type} [Probability ρ] [Field ρ] [LinearOrder ρ] [LawfulProbability ρ]

section Weights

variable (ρ) {x : Lexicon} (w : Word) (tag : String)

theorem pairWeight_of_isRare (hrare : x.isRare w = true) :
    x.pairWeight ρ w tag = x.pairCount w tag + x.typeTags.count tag / x.types := by
  rw [pairWeight, if_pos hrare, LawfulProbability.add_eq, Probability.share_eq,
    LawfulProbability.ofNat_eq]

theorem pairWeight_of_not_isRare (hrare : ¬ x.isRare w = true) :
    x.pairWeight ρ w tag = x.pairCount w tag := by
  rw [pairWeight, if_neg hrare, LawfulProbability.ofNat_eq]

/-- Smoothing only adds to what was seen. -/
theorem pairCount_le_pairWeight : (x.pairCount w tag : ρ) ≤ x.pairWeight ρ w tag := by
  by_cases hrare : x.isRare w = true
  · rw [pairWeight_of_isRare ρ w tag hrare, ← Probability.share_eq]
    exact le_add_of_nonneg_right (Probability.share_nonneg _ _)
  · rw [pairWeight_of_not_isRare ρ w tag hrare]

end Weights

theorem tagShare_pos {x : Lexicon} {tag : String} (htokens : x.tokens ≠ 0)
    (htag : x.tags.count tag ≠ 0) : 0 < x.tagShare ρ tag :=
  Probability.share_pos (Nat.pos_of_ne_zero htag) (Nat.pos_of_ne_zero htokens)

theorem wordShare_pos {x : Lexicon} (htokens : x.tokens ≠ 0) (w : Word) : 0 < x.wordShare ρ w := by
  refine Probability.share_pos ?_ ?_
  · omega
  · omega

omit [Field ρ] [LinearOrder ρ] [LawfulProbability ρ] in
/-- Only tags that have been counted make a word likely. -/
theorem counted_of_likelihood {x : Lexicon} {w : Word} {tag : String} {q : ρ}
    (h : x.estimate? ρ w tag = some (.likelihood q)) : x.tokens ≠ 0 ∧ x.tags.count tag ≠ 0 := by
  rw [estimate?] at h
  split_ifs at h with himpossible
  · simp at h
  · exact not_or.mp himpossible

/-- Logarithms are taken of positive numbers only. -/
theorem likelihood_pos {x : Lexicon} {w : Word} {tag : String} {q : ρ}
    (h : x.estimate? ρ w tag = some (.likelihood q)) : 0 < q := by
  obtain ⟨htokens, htag⟩ := counted_of_likelihood h
  rw [estimate?, if_neg (not_or.mpr ⟨htokens, htag⟩)] at h
  obtain ⟨p, -, hp⟩ := Option.map_eq_some_iff.mp h
  split_ifs at hp with hnonpos
  rw [LawfulProbability.isNonpos_iff, not_le] at hnonpos
  rw [Estimate.likelihood.injEq, LawfulProbability.mul_eq, LawfulProbability.div_eq] at hp
  rw [← hp]
  exact mul_pos (div_pos hnonpos (tagShare_pos htokens htag)) (wordShare_pos htokens w)

/-- A tag that was added is impossible for the words that do not count as seen with it, and only for them. -/
theorem Counted.estimate?_of_mem (h : Counted rareThreshold pairs x) {w : Word} {tag : String}
    (hword : x.wordWeight w ≠ 0) (htag : tag ∈ pairs.map Prod.snd) : x.estimate? ρ w tag = some
      (if 0 < x.pairWeight ρ w tag
        then .likelihood (x.pairWeight ρ w tag / x.wordWeight w / x.tagShare ρ tag * x.wordShare ρ w)
        else .impossible) := by
  have htokens : x.tokens ≠ 0 := by
    rw [h.tokens_eq, ← List.length_map Prod.snd]
    exact (List.length_pos_of_mem htag).ne'
  have hpos : (0 : ρ) < x.wordWeight w := Nat.cast_pos.mpr (Nat.pos_of_ne_zero hword)
  have hnonpos : x.pairWeight ρ w tag / x.wordWeight w ≤ 0 ↔ ¬ 0 < x.pairWeight ρ w tag := by
    rw [← not_lt, div_pos_iff_of_pos_right hpos]
  rw [estimate?, if_neg (not_or.mpr ⟨htokens, h.tags_count_ne_zero_iff.mpr htag⟩), tagGivenWord?,
    if_neg hword, Option.map_some, LawfulProbability.div_eq, LawfulProbability.ofNat_eq]
  simp only [LawfulProbability.isNonpos_iff, hnonpos, LawfulProbability.mul_eq, LawfulProbability.div_eq,
    ite_not]

/-- A word has an estimate for every tag that it was added with, whatever the threshold. -/
theorem Counted.exists_likelihood (h : Counted rareThreshold pairs x) {w : Word} {tag : String}
    (hp : (w, tag) ∈ pairs) : ∃ q : ρ, x.estimate? ρ w tag = some (.likelihood q) := by
  have hmemWord : w ∈ pairs.map Prod.fst := List.mem_map.mpr ⟨_, hp, rfl⟩
  have hmemTag : tag ∈ pairs.map Prod.snd := List.mem_map.mpr ⟨_, hp, rfl⟩
  have hword : x.wordWeight w ≠ 0 := by
    rw [Ne, wordWeight_eq_zero_iff, h.words_count]
    intro hzero
    exact (List.count_pos_iff.mpr hmemWord).ne' hzero.1
  have hseen : (0 : ρ) < x.pairCount w tag := Nat.cast_pos.mpr (h.pairCount_pos_iff.mpr hp)
  have hpair : 0 < x.pairWeight ρ w tag := hseen.trans_le (pairCount_le_pairWeight ρ w tag)
  exact ⟨_, (h.estimate?_of_mem hword hmemTag).trans (congrArg some (if_pos hpair))⟩

end Exact

end Lexicon

end Constituency
