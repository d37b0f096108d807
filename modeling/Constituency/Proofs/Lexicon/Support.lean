import Constituency.Proofs.Lexicon.Likelihood
import Constituency.Proofs.Score.Real

/-!
# Which tags a word can have

A word can have a tag that it was added with; a word that was added less often than the threshold can also have
the tags of first occurrences (`CanHave`). In exact numbers a lexicon has a likelihood for these tags, and takes
all others to be impossible (`exists_likelihood_of_canHave`, `estimate?_of_not_canHave`), so its score is the
logarithm of a positive number, or `bottom` (`isFinite_score?_iff`). Nothing is divided by zero on the way: where
an occurrence of the tag has been counted, there is a word type, and a word counts as seen because a word without
occurrences is smoothed.
-/
namespace Constituency.Lexicon

/-- A word can have a tag when it was added with it, or when it was not added as often as the threshold and the tag
is that of the first occurrence of a word. -/
def CanHave (rareThreshold : Int) (pairs : List (Word × String)) (w : Word) (tag : String) : Prop :=
  tag ∈ pairs.map Prod.snd ∧
    ((w, tag) ∈ pairs ∨
      ((pairs.map Prod.fst).count w : Int) < rareThreshold ∧ ∃ v, firstTag? pairs v = some tag)

instance (rareThreshold : Int) (pairs : List (Word × String)) (w : Word) (tag : String) :
    Decidable (CanHave rareThreshold pairs w tag) :=
  have : Decidable (∃ v, firstTag? pairs v = some tag) := decidable_of_iff _ mem_map_snd_firsts
  inferInstanceAs (Decidable (_ ∧ (_ ∨ _ ∧ _)))

variable {ρ : Type} [Probability ρ] [Field ρ] [LinearOrder ρ] [LawfulProbability ρ]
  {rareThreshold : Int} {pairs : List (Word × String)} {x : Lexicon} {w : Word} {tag : String}

section Counted

variable (hx : Counted rareThreshold pairs x)

include hx

theorem Counted.isRare_iff : x.isRare w = true ↔ ((pairs.map Prod.fst).count w : Int) < rareThreshold := by
  rw [isRare, decide_eq_true_eq, hx.words_count, hx.rareThreshold_eq]

variable (ht : CountedTypes pairs x)

include ht

/-- A word counts as seen with the tags that it was added with and, when it is smoothed, with those of first
occurrences. -/
theorem pairWeight_pos_iff : 0 < x.pairWeight ρ w tag ↔
    (w, tag) ∈ pairs ∨ x.isRare w = true ∧ ∃ v, firstTag? pairs v = some tag := by
  rw [← hx.pairCount_pos_iff, ← ht.typeTags_count_ne_zero_iff]
  constructor
  · intro hpos
    by_contra hno
    obtain ⟨hseen, hnew⟩ := not_or.mp hno
    rw [Nat.pos_iff_ne_zero, not_not] at hseen
    by_cases hrare : x.isRare w = true
    · have hzero : x.typeTags.count tag = 0 := not_not.mp fun hne => hnew ⟨hrare, hne⟩
      rw [pairWeight_of_isRare ρ w tag hrare, hseen, hzero, Nat.cast_zero, zero_div, add_zero] at hpos
      exact lt_irrefl _ hpos
    · rw [pairWeight_of_not_isRare ρ w tag hrare, hseen, Nat.cast_zero] at hpos
      exact lt_irrefl _ hpos
  · rintro (hseen | ⟨hrare, hnew⟩)
    · exact (Nat.cast_pos.mpr hseen).trans_le (pairCount_le_pairWeight ρ w tag)
    · -- The types with the tag are among all types, so these are not zero.
      have hcount := Nat.pos_of_ne_zero hnew
      rw [pairWeight_of_isRare ρ w tag hrare, ← Probability.share_eq]
      exact add_pos_of_nonneg_of_pos (Nat.cast_nonneg _)
        (Probability.share_pos hcount (hcount.trans_le (ht.typeTags_le_types tag)))

theorem canHave_iff : CanHave rareThreshold pairs w tag ↔
    tag ∈ pairs.map Prod.snd ∧ 0 < x.pairWeight ρ w tag := by
  rw [CanHave, pairWeight_pos_iff hx ht, hx.isRare_iff]

variable (h : 1 ≤ rareThreshold)

include h

/-- There is a likelihood for the tags that a word can have. -/
theorem exists_likelihood_of_canHave (hcan : CanHave rareThreshold pairs w tag) :
    ∃ q : ρ, x.estimate? ρ w tag = some (.likelihood q) := by
  obtain ⟨htag, hpos⟩ := (canHave_iff (ρ := ρ) hx ht).mp hcan
  exact ⟨_, (hx.estimate?_of_mem (hx.wordWeight_ne_zero h w) htag).trans (congrArg some (if_pos hpos))⟩

/-- All other tags are impossible. -/
theorem estimate?_of_not_canHave (hcan : ¬ CanHave rareThreshold pairs w tag) :
    x.estimate? ρ w tag = some .impossible := by
  by_cases htag : tag ∈ pairs.map Prod.snd
  · have hpos : ¬ 0 < x.pairWeight ρ w tag := fun hpos => hcan ((canHave_iff hx ht).mpr ⟨htag, hpos⟩)
    exact (hx.estimate?_of_mem (hx.wordWeight_ne_zero h w) htag).trans (congrArg some (if_neg hpos))
  · rw [estimate?, if_pos (Or.inr (not_not.mp (hx.tags_count_ne_zero_iff.not.mpr htag)))]

end Counted

/-- After any additions to a lexicon whose threshold is positive, the score of a word under a tag is finite if and
only if the word can have the tag; then it is the logarithm of a positive number. Otherwise it is `bottom`. Where
the tag has been counted, nothing that a number is divided by is zero. -/
theorem isFinite_score?_iff {rareThreshold : Int} (h : 1 ≤ rareThreshold) (pairs : List (Word × String))
    (w : Word) (tag : String) :
    (((empty rareThreshold).addAll pairs).tokens ≠ 0 →
      ((empty rareThreshold).addAll pairs).tags.count tag ≠ 0 →
      ((empty rareThreshold).addAll pairs).types ≠ 0 ∧
      ((empty rareThreshold).addAll pairs).wordWeight w ≠ 0 ∧
      ((empty rareThreshold).addAll pairs).tagShare ℝ tag ≠ 0) ∧
    ∃ s : RealScore, ((empty rareThreshold).addAll pairs).score? w tag = some s ∧
      (Score.isFinite s = true ↔ CanHave rareThreshold pairs w tag) ∧
      (CanHave rareThreshold pairs w tag → ∃ q, 0 < q ∧ s = .value (Real.log q) ∧
        ((empty rareThreshold).addAll pairs).estimate? ℝ w tag = some (.likelihood q)) ∧
      (¬ CanHave rareThreshold pairs w tag → s = Score.bottom) := by
  have hx := counted_addAll rareThreshold pairs
  have ht := countedTypes_addAll rareThreshold pairs
  set x := (empty rareThreshold).addAll pairs
  refine ⟨fun htokens htag => ?_, ?_⟩
  · exact ⟨(hx.types_pos_of_tokens htokens).ne', hx.wordWeight_ne_zero h w, (tagShare_pos htokens htag).ne'⟩
  by_cases hcan : CanHave rareThreshold pairs w tag
  · obtain ⟨q, hq⟩ := exists_likelihood_of_canHave (ρ := ℝ) hx ht h hcan
    have hpos := likelihood_pos hq
    refine ⟨.value (Real.log q), ?_, iff_of_true rfl hcan, fun _ => ⟨q, hpos, rfl, hq⟩, fun hno => absurd hcan hno⟩
    rw [score?, hq, Option.map_some]
    exact congrArg some (RealScore.log_eq hpos)
  · have hq := estimate?_of_not_canHave (ρ := ℝ) hx ht h hcan
    refine ⟨Score.bottom, ?_, iff_of_false Bool.false_ne_true hcan, fun hyes => absurd hyes hcan, fun _ => rfl⟩
    rw [score?, hq, Option.map_some]

/-- One word with two tags, the second of which no word has had first. -/
def twoTags : List (Word × String) := [(some "a", "A"), (some "a", "B")]

/-- The word itself can have both tags, and an unknown word the first one only. -/
theorem isFinite_score?_iff_twoTags :
    (1 : Int) ≤ 3 ∧
    (∃ q, 0 < q ∧ ((empty 3).addAll twoTags).score? (some "a") "B" = some (RealScore.value (Real.log q))) ∧
    (∃ q, 0 < q ∧ ((empty 3).addAll twoTags).score? (some "b") "A" = some (RealScore.value (Real.log q))) ∧
    ((empty 3).addAll twoTags).score? (some "b") "B" = some RealScore.bottom := by
  have h : (1 : Int) ≤ 3 := by decide
  refine ⟨h, ?_, ?_, ?_⟩
  · obtain ⟨-, s, hs, -, hfinite, -⟩ := isFinite_score?_iff h twoTags (some "a") "B"
    obtain ⟨q, hq, rfl, -⟩ := hfinite (by decide)
    exact ⟨q, hq, hs⟩
  · obtain ⟨-, s, hs, -, hfinite, -⟩ := isFinite_score?_iff h twoTags (some "b") "A"
    obtain ⟨q, hq, rfl, -⟩ := hfinite (by decide)
    exact ⟨q, hq, hs⟩
  · obtain ⟨-, s, hs, -, -, hbottom⟩ := isFinite_score?_iff h twoTags (some "b") "B"
    exact hs.trans (congrArg some (hbottom (by decide)))

end Constituency.Lexicon
