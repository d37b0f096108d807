import Constituency.Proofs.Lexicon

/-!
# Word types of a lexicon

A word is a new type where it is added for the first time, and its type has the tag that it has there
(`countedTypes_addAll`). So there are as many types as words, and a tag has as many types as there are words
that had it first (`CountedTypes.typeTags_count_eq_card`). No tag has more types than occurrences, and when
there is one type only, every occurrence is one of the same word.
-/
namespace Constituency.Lexicon

/-- The pairs that have their word for the first time, in order. -/
def firsts (pairs : List (Word × String)) : List (Word × String) :=
  pairs.foldl (fun fs p => if p.1 ∈ fs.map Prod.fst then fs else fs ++ [p]) []

theorem firsts_append_singleton (pairs : List (Word × String)) (p : Word × String) :
    firsts (pairs ++ [p]) =
      if p.1 ∈ (firsts pairs).map Prod.fst then firsts pairs else firsts pairs ++ [p] := by
  rw [firsts, List.foldl_append]
  rfl

theorem firsts_sublist (pairs : List (Word × String)) : (firsts pairs).Sublist pairs := by
  induction pairs using List.reverseRecOn with
  | nil => exact List.Sublist.refl _
  | append_singleton pairs p ih =>
    rw [firsts_append_singleton]
    split_ifs
    · exact ih.trans (List.sublist_append_left _ _)
    · exact ih.append_right [p]

/-- Every word has a first occurrence. -/
theorem mem_map_firsts {pairs : List (Word × String)} {w : Word} :
    w ∈ (firsts pairs).map Prod.fst ↔ w ∈ pairs.map Prod.fst := by
  refine ⟨fun h => ((firsts_sublist pairs).map Prod.fst).subset h, ?_⟩
  induction pairs using List.reverseRecOn with
  | nil => exact id
  | append_singleton pairs p ih =>
    intro hw
    rw [List.map_append, List.mem_append, List.map_singleton, List.mem_singleton] at hw
    rw [firsts_append_singleton]
    split_ifs with hold
    · rcases hw with hw | rfl
      · exact ih hw
      · exact hold
    · rw [List.map_append, List.mem_append, List.map_singleton, List.mem_singleton]
      exact hw.imp_left ih

/-- Words that were there before have no new first occurrences. -/
theorem firsts_append_of_mem {pairs more : List (Word × String)}
    (h : ∀ p ∈ more, p.1 ∈ pairs.map Prod.fst) : firsts (pairs ++ more) = firsts pairs := by
  induction more using List.reverseRecOn with
  | nil => rw [List.append_nil]
  | append_singleton more p ih =>
    rw [List.forall_mem_append, List.forall_mem_singleton] at h
    rw [← List.append_assoc, firsts_append_singleton, ih h.1, if_pos (mem_map_firsts.mpr h.2)]

/-- The tag that a word had for the first time. -/
def firstTag? (pairs : List (Word × String)) (w : Word) : Option String :=
  (pairs.find? fun p => p.1 = w).map Prod.snd

theorem firstTag?_append_singleton (pairs : List (Word × String)) (p : Word × String) (w : Word) :
    firstTag? (pairs ++ [p]) w = (firstTag? pairs w).or (if p.1 = w then some p.2 else none) := by
  rw [firstTag?, firstTag?, List.find?_append, Option.map_or]
  by_cases hp : p.1 = w <;> simp [hp]

theorem firstTag?_eq_none_iff {pairs : List (Word × String)} {w : Word} :
    firstTag? pairs w = none ↔ w ∉ pairs.map Prod.fst := by
  rw [firstTag?, Option.map_eq_none_iff, List.find?_eq_none, List.mem_map]
  simp only [decide_eq_true_eq, not_exists, not_and]

/-- The first occurrences are those of the words with their first tags. -/
theorem mem_firsts {pairs : List (Word × String)} {w : Word} {tag : String} :
    (w, tag) ∈ firsts pairs ↔ firstTag? pairs w = some tag := by
  induction pairs using List.reverseRecOn with
  | nil => simp [firsts, firstTag?]
  | append_singleton pairs p ih =>
    have hword : p.1 ∈ (firsts pairs).map Prod.fst ↔ firstTag? pairs p.1 ≠ none := by
      rw [mem_map_firsts, Ne, firstTag?_eq_none_iff, not_not]
    rw [firsts_append_singleton, firstTag?_append_singleton]
    split_ifs with hold heq heq
    · subst heq
      obtain ⟨t, ht⟩ := Option.ne_none_iff_exists'.mp (hword.mp hold)
      rw [ih, ht, Option.some_or]
    · rw [ih, Option.or_none]
    · subst heq
      have hnone : firstTag? pairs p.1 = none := not_not.mp (hword.not.mp hold)
      simp [ih, hnone, Prod.ext_iff, eq_comm]
    · simp [ih, Prod.ext_iff, Ne.symm heq]

theorem mem_map_snd_firsts {pairs : List (Word × String)} {tag : String} :
    tag ∈ (firsts pairs).map Prod.snd ↔ ∃ w, firstTag? pairs w = some tag := by
  simp [mem_firsts]

/-- No word has two first occurrences. -/
theorem nodup_map_firsts (pairs : List (Word × String)) : ((firsts pairs).map Prod.fst).Nodup := by
  induction pairs using List.reverseRecOn with
  | nil => exact List.nodup_nil
  | append_singleton pairs p ih =>
    rw [firsts_append_singleton]
    split_ifs with hold
    · exact ih
    · rw [List.map_append, List.map_singleton, ← List.concat_eq_append]
      exact ih.concat hold

/-- What a lexicon has counted of the types of words after some words with their tags. -/
structure CountedTypes (pairs : List (Word × String)) (x : Lexicon) : Prop where
  types_eq : x.types = (firsts pairs).length
  typeTags_count : ∀ tag, x.typeTags.count tag = ((firsts pairs).map Prod.snd).count tag

variable {rareThreshold : Int} {pairs : List (Word × String)} {x : Lexicon}

theorem types_add (x : Lexicon) (w : Word) (tag : String) :
    (x.add w tag).types = if x.known w then x.types else x.types + 1 := rfl

theorem typeTags_add (x : Lexicon) (w : Word) (tag : String) :
    (x.add w tag).typeTags = if x.known w then x.typeTags else x.typeTags.bump tag := rfl

/-- Counting one more occurrence. -/
theorem CountedTypes.add (ht : CountedTypes pairs x) (hx : Counted rareThreshold pairs x) (w : Word)
    (tag : String) : CountedTypes (pairs ++ [(w, tag)]) (x.add w tag) := by
  have hknown : x.known w = true ↔ w ∈ (firsts pairs).map Prod.fst := by
    rw [hx.known_iff, mem_map_firsts]
    simp
  -- A known word leaves both counts as they are, and a new one is the last of the first occurrences.
  by_cases hold : w ∈ (firsts pairs).map Prod.fst
  · have hfirsts : firsts (pairs ++ [(w, tag)]) = firsts pairs := by
      rw [firsts_append_singleton, if_pos hold]
    constructor
    · rw [hfirsts, types_add, if_pos (hknown.mpr hold), ht.types_eq]
    · intro t
      rw [hfirsts, typeTags_add, if_pos (hknown.mpr hold), ht.typeTags_count]
  · have hfirsts : firsts (pairs ++ [(w, tag)]) = firsts pairs ++ [(w, tag)] := by
      rw [firsts_append_singleton, if_neg hold]
    constructor
    · rw [hfirsts, types_add, if_neg (hknown.not.mpr hold), ht.types_eq, List.length_append]
      rfl
    · intro t
      rw [hfirsts, typeTags_add, if_neg (hknown.not.mpr hold), Tally.count_bump, ht.typeTags_count,
        List.map_append, List.count_append]
      by_cases heq : tag = t <;> simp [heq]

/-- The types of all words that were added. -/
theorem countedTypes_addAll (rareThreshold : Int) (pairs : List (Word × String)) :
    CountedTypes pairs ((empty rareThreshold).addAll pairs) := by
  induction pairs using List.reverseRecOn with
  | nil => exact ⟨rfl, fun _ => rfl⟩
  | append_singleton pairs p ih =>
    rw [addAll, List.foldl_append]
    exact ih.add (counted_addAll rareThreshold pairs) p.1 p.2

namespace CountedTypes

variable (ht : CountedTypes pairs x) (hx : Counted rareThreshold pairs x)

include ht

/-- Every word is one type. -/
theorem types_eq_card : x.types = (pairs.map Prod.fst).toFinset.card := by
  have hwords : (pairs.map Prod.fst).toFinset = ((firsts pairs).map Prod.fst).toFinset := by
    ext w
    rw [List.mem_toFinset, List.mem_toFinset, mem_map_firsts]
  rw [ht.types_eq, hwords, List.toFinset_card_of_nodup (nodup_map_firsts pairs), List.length_map]

/-- A tag has the words as types that had it first. -/
theorem typeTags_count_eq_card (tag : String) : x.typeTags.count tag =
    ((pairs.map Prod.fst).toFinset.filter fun w => firstTag? pairs w = some tag).card := by
  have hwords : (pairs.map Prod.fst).toFinset.filter (fun w => firstTag? pairs w = some tag) =
      (((firsts pairs).filter fun p => p.2 = tag).map Prod.fst).toFinset := by
    ext w
    rw [Finset.mem_filter, List.mem_toFinset, List.mem_toFinset, ← mem_map_firsts, ← mem_firsts]
    simp only [List.mem_map, List.mem_filter, decide_eq_true_eq]
    constructor
    · rintro ⟨-, hfirst⟩
      exact ⟨_, ⟨hfirst, rfl⟩, rfl⟩
    · rintro ⟨p, ⟨hp, rfl⟩, rfl⟩
      exact ⟨⟨p, hp, rfl⟩, hp⟩
  have hnodup : (((firsts pairs).filter fun p => p.2 = tag).map Prod.fst).Nodup :=
    (nodup_map_firsts pairs).sublist (List.filter_sublist.map Prod.fst)
  rw [ht.typeTags_count, hwords, List.toFinset_card_of_nodup hnodup, List.length_map, List.count,
    List.countP_map, List.countP_eq_length_filter]
  rfl

theorem typeTags_count_ne_zero_iff {tag : String} :
    x.typeTags.count tag ≠ 0 ↔ ∃ w, firstTag? pairs w = some tag := by
  rw [ht.typeTags_count, ← Nat.pos_iff_ne_zero, List.count_pos_iff, mem_map_snd_firsts]

theorem typeTags_le_types (tag : String) : x.typeTags.count tag ≤ x.types := by
  rw [ht.typeTags_count, ht.types_eq]
  exact List.count_le_length.trans_eq (List.length_map _)

include hx

theorem typeTags_le_tags (tag : String) : x.typeTags.count tag ≤ x.tags.count tag := by
  rw [ht.typeTags_count, hx.tags_count]
  exact ((firsts_sublist pairs).map Prod.snd).count_le tag

/-- All occurrences are of the word when it is the only type. -/
theorem words_eq_tokens (hone : x.types = 1) {w : Word} (hw : x.words.count w ≠ 0) :
    x.words.count w = x.tokens := by
  rw [hx.words_count] at hw ⊢
  rw [hx.tokens_eq, ← List.length_map Prod.fst]
  rw [ht.types_eq, List.length_eq_one_iff] at hone
  obtain ⟨p, hp⟩ := hone
  have hall : ∀ v ∈ pairs.map Prod.fst, v = p.1 := by
    intro v hv
    rw [← mem_map_firsts, hp, List.map_singleton, List.mem_singleton] at hv
    exact hv
  obtain rfl := hall w (List.count_pos_iff.mp (Nat.pos_of_ne_zero hw))
  exact List.count_eq_length.mpr fun v hv => (hall v hv).symm

end CountedTypes

namespace Counted

variable (hx : Counted rareThreshold pairs x)

include hx

theorem types_pos_of_tokens (h : x.tokens ≠ 0) : 0 < x.types := by
  refine hx.types_pos fun hnil => h ?_
  rw [hx.tokens_eq, hnil, List.length_nil]

theorem pairCount_le_words (w : Word) (tag : String) : x.pairCount w tag ≤ x.words.count w := by
  rw [hx.pairCount_eq, hx.words_count]
  exact List.count_le_count_map (f := Prod.fst) (x := (w, tag))

theorem pairCount_le_tags (w : Word) (tag : String) : x.pairCount w tag ≤ x.tags.count tag := by
  rw [hx.pairCount_eq, hx.tags_count]
  exact List.count_le_count_map (f := Prod.snd) (x := (w, tag))

end Counted

end Constituency.Lexicon
