import Constituency.Proofs.Lexicon.Likelihood
import Mathlib.Algebra.BigOperators.Field

/-!
# Counts that agree

The counts of a lexicon are kept in step by every addition (`IsBalanced.add`): the occurrences of all tags, of
all words and of all pairs are the same number, the pairs of a word are the occurrences of the word, those of a tag
the occurrences of the tag, and the first tags are as many as the words. In exact numbers the probabilities of the
tags for a word add up to one then (`isBalanced_and_normalized`): a smoothed word counts as seen once more, and the
shares of the tags in the first tags, which are added to its pairs, have the sum one (`sum_pairWeight`).
-/
namespace Constituency.Lexicon

/-- How often a word was counted with each tag. -/
def row (x : Lexicon) (w : Word) : Tally String := (x.wordTags.get? w).getD .empty

/-- The counts of a lexicon agree. -/
structure IsBalanced (x : Lexicon) : Prop where
  tags_total : x.tags.total = x.tokens
  words_total : x.words.total = x.tokens
  pairs_total : (x.wordTags.values.map Tally.total).sum = x.tokens
  row_total : ∀ w, (x.row w).total = x.words.count w
  column_total : ∀ tag, (x.wordTags.values.map (Tally.count · tag)).sum = x.tags.count tag
  types_eq_size : x.types = x.words.size
  typeTags_total : x.typeTags.total = x.types

/-- The tags of word types, and those of each word, are listed once. -/
structure ListsTags (x : Lexicon) : Prop where
  typeTags : x.typeTags.IsCounted
  row : ∀ w, (x.row w).IsCounted

theorem row_add (x : Lexicon) (w v : Word) (tag : String) :
    (x.add w tag).row v = if w = v then (x.row v).bump tag else x.row v := by
  unfold row add
  rw [OrderedMap.get?_alter]
  split_ifs with h
  · rw [h, Option.getD_some]
  · rfl

theorem isBalanced_empty (rareThreshold : Int) : (empty rareThreshold).IsBalanced :=
  ⟨rfl, rfl, rfl, fun _ => rfl, fun _ => rfl, rfl, rfl⟩

/-- Counting one more occurrence keeps the counts in step. -/
theorem IsBalanced.add {x : Lexicon} (h : x.IsBalanced) (w : Word) (tag : String) :
    (x.add w tag).IsBalanced where
  tags_total := by
    rw [Lexicon.add, Tally.total_bump, h.tags_total]
  words_total := by
    rw [Lexicon.add, Tally.total_bump, h.words_total]
  pairs_total := by
    rw [Lexicon.add, ← h.pairs_total]
    refine OrderedMap.sum_values_alter ?_
    rw [Tally.total_bump]
    -- The pairs of a new word had the sum zero.
    cases x.wordTags.get? w <;> rfl
  row_total v := by
    rw [row_add, Lexicon.add, Tally.count_bump]
    split_ifs
    · rw [Tally.total_bump, h.row_total]
    · exact h.row_total v
  column_total t := by
    have hcount : (x.add w tag).tags.count t = x.tags.count t + if tag = t then 1 else 0 := by
      rw [Lexicon.add, Tally.count_bump]
      split_ifs <;> rfl
    rw [hcount, ← h.column_total]
    refine OrderedMap.sum_values_alter ?_
    rw [Tally.count_bump]
    cases x.wordTags.get? w <;> split_ifs <;> rfl
  types_eq_size := by
    have hsize : (x.add w tag).words.size = if x.words.contains w then x.words.size else x.words.size + 1 :=
      OrderedMap.size_alter _ _ _
    rw [hsize, types_add, h.types_eq_size, known]
  typeTags_total := by
    rw [typeTags_add, types_add]
    split_ifs
    · exact h.typeTags_total
    · rw [Tally.total_bump, h.typeTags_total]

theorem listsTags_empty (rareThreshold : Int) : (empty rareThreshold).ListsTags :=
  ⟨OrderedMap.isCounted_empty, fun _ => OrderedMap.isCounted_empty⟩

theorem ListsTags.add {x : Lexicon} (h : x.ListsTags) (w : Word) (tag : String) : (x.add w tag).ListsTags where
  typeTags := by
    rw [typeTags_add]
    split_ifs
    · exact h.typeTags
    · exact h.typeTags.bump tag
  row v := by
    rw [row_add]
    split_ifs
    · exact (h.row v).bump tag
    · exact h.row v

/-- The counts agree after any additions. -/
theorem isBalanced_addAll {x : Lexicon} (h : x.IsBalanced) (pairs : List (Word × String)) :
    (x.addAll pairs).IsBalanced :=
  List.foldlRecOn pairs _ h fun _ hy p _ => hy.add p.1 p.2

theorem listsTags_addAll {x : Lexicon} (h : x.ListsTags) (pairs : List (Word × String)) :
    (x.addAll pairs).ListsTags :=
  List.foldlRecOn pairs _ h fun _ hy p _ => hy.add p.1 p.2

variable {ρ : Type} [Probability ρ] [Field ρ] [LinearOrder ρ] [LawfulProbability ρ]
  {rareThreshold : Int} {pairs : List (Word × String)} {x : Lexicon}

/-- What a word counts as seen with all tags is how often it counts as seen. -/
theorem sum_pairWeight (hlists : x.ListsTags) (hbalanced : x.IsBalanced) (hx : Counted rareThreshold pairs x)
    (ht : CountedTypes pairs x) (hpairs : pairs ≠ []) (w : Word) :
    ∑ tag ∈ (pairs.map Prod.snd).toFinset, x.pairWeight ρ w tag = x.wordWeight w := by
  have hmem : ∀ {n : Nat} {tag}, n ≠ 0 → n ≤ x.tags.count tag → tag ∈ (pairs.map Prod.snd).toFinset := by
    intro n tag hn hle
    rw [List.mem_toFinset, ← hx.tags_count_ne_zero_iff]
    omega
  have hseen : ∑ tag ∈ (pairs.map Prod.snd).toFinset, (x.pairCount w tag : ρ) = x.words.count w := by
    have hrow := Tally.total_eq_sum_count (hlists.row w) fun tag hne => hmem hne (hx.pairCount_le_tags w tag)
    rw [← hbalanced.row_total, hrow, Nat.cast_sum]
    rfl
  -- The weights of a smoothed word are its pairs and the shares of all types, which are one more occurrence.
  by_cases hrare : x.isRare w = true
  · have hnew : ∑ tag ∈ (pairs.map Prod.snd).toFinset, (x.typeTags.count tag : ρ) = x.types := by
      have htags := Tally.total_eq_sum_count hlists.typeTags fun tag hne => hmem hne (ht.typeTags_le_tags hx tag)
      rw [← hbalanced.typeTags_total, htags, Nat.cast_sum]
    have htypes : (x.types : ρ) ≠ 0 := Nat.cast_ne_zero.mpr (hx.types_pos hpairs).ne'
    rw [Finset.sum_congr rfl fun tag _ => pairWeight_of_isRare ρ w tag hrare, Finset.sum_add_distrib, hseen,
      ← Finset.sum_div, hnew, div_self htypes, wordWeight, if_pos hrare, Nat.cast_add, Nat.cast_one]
  · rw [Finset.sum_congr rfl fun tag _ => pairWeight_of_not_isRare ρ w tag hrare, hseen, wordWeight,
      if_neg hrare, Nat.add_zero]

/-- However a lexicon is counted up, its counts agree: all occurrences are those of the tags, of the words and of
the pairs, and the types are the words, a tag having those that had it first. So the probabilities of the tags for
a word add up to one, be it frequent, rare or unknown. -/
theorem isBalanced_and_normalized (rareThreshold : Int) (pairs : List (Word × String)) :
    ((empty rareThreshold).addAll pairs).IsBalanced ∧
    ((empty rareThreshold).addAll pairs).types = (pairs.map Prod.fst).toFinset.card ∧
    (∀ tag, ((empty rareThreshold).addAll pairs).typeTags.count tag =
      ((pairs.map Prod.fst).toFinset.filter fun w => firstTag? pairs w = some tag).card) ∧
    (pairs ≠ [] → 1 ≤ rareThreshold → ∀ w, ∃ p : String → ρ,
      (∀ tag, ((empty rareThreshold).addAll pairs).tagGivenWord? ρ w tag = some (p tag)) ∧
      ∑ tag ∈ (pairs.map Prod.snd).toFinset, p tag = 1) := by
  have hbalanced := isBalanced_addAll (isBalanced_empty rareThreshold) pairs
  have hlists := listsTags_addAll (listsTags_empty rareThreshold) pairs
  have hx := counted_addAll rareThreshold pairs
  have ht := countedTypes_addAll rareThreshold pairs
  refine ⟨hbalanced, ht.types_eq_card, ht.typeTags_count_eq_card, fun hpairs hrare w => ?_⟩
  set x := (empty rareThreshold).addAll pairs
  have hword := hx.wordWeight_ne_zero hrare w
  refine ⟨fun tag => x.pairWeight ρ w tag / x.wordWeight w, fun tag => ?_, ?_⟩
  · rw [tagGivenWord?, if_neg hword, LawfulProbability.div_eq, LawfulProbability.ofNat_eq]
  · rw [← Finset.sum_div, sum_pairWeight hlists hbalanced hx ht hpairs w,
      div_self (Nat.cast_ne_zero.mpr hword)]

/-- One word twice with different tags, and another one once. -/
def repeatedWord : List (Word × String) := [(some "a", "A"), (some "b", "B"), (some "a", "B")]

theorem isBalanced_and_normalized_repeatedWord :
    repeatedWord ≠ [] ∧ (1 : Int) ≤ 2 ∧ ((empty 2).addAll repeatedWord).IsBalanced ∧
    ∀ w, ∃ p : String → Rat, (∀ tag, ((empty 2).addAll repeatedWord).tagGivenWord? Rat w tag = some (p tag)) ∧
      p "A" + p "B" = 1 := by
  obtain ⟨hbalanced, -, -, hnormalized⟩ := isBalanced_and_normalized (ρ := Rat) 2 repeatedWord
  refine ⟨by decide, by decide, hbalanced, fun w => ?_⟩
  obtain ⟨p, hp, hsum⟩ := hnormalized (by decide) (by decide) w
  have htags : (repeatedWord.map Prod.snd).toFinset = {"A", "B"} := by decide
  rw [htags, Finset.sum_pair (by decide)] at hsum
  exact ⟨p, hp, hsum⟩

end Constituency.Lexicon
