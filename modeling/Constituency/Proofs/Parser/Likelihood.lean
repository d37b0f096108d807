import Constituency.Proofs.Lexicon.Likelihood
import Constituency.Proofs.Parser.Reproduction

/-!
# How probable a result can be

The rules of a derivation are shares of what was counted, so only the words can make it more probable than
one (`score_le`). With the bounds of likelihoods, the result for a sentence has a probability of at most
nine fourths for each word, and of at most one when every tag was counted more often than the words
(`probability_le_pow`).
-/
namespace Constituency

namespace Lexicon

/-- A bound of the likelihoods bounds the score. -/
theorem score?_le {x : Lexicon} {w : Word} {tag : String} {s : RealScore} (hs : x.score? w tag = some s)
    {b : ℝ} (hq : ∀ q, x.estimate? ℝ w tag = some (.likelihood q) → q ≤ b) :
    s ≤ .value (Real.log b) := by
  obtain ⟨e, he, rfl⟩ := Option.map_eq_some_iff.mp hs
  cases e with
  | impossible => exact bot_le
  | likelihood q =>
    have hpos : 0 < q := likelihood_pos he
    change LogScale.log q ≤ _
    rw [RealScore.log_eq hpos]
    exact RealScore.value_le_value.mpr (Real.log_le_log hpos (hq q he))

end Lexicon

namespace Derivation

variable {g : Grammar RealScore} {scores : String → String → Option RealScore} {sentence : List String}

/-- A derivation has no better score than its words. -/
theorem score_le (hunary : ∀ r ∈ g.unary, r.score ≤ 0) (hbinary : ∀ r ∈ g.binary, r.score ≤ 0) {a : ℝ}
    (hword : ∀ w ∈ sentence, ∀ tag s, scores w tag = some s → s ≤ .value a) {x : Symbol} {i j : Nat}
    (d : Derivation g scores sentence x i j) : d.score ≤ .value ((j - i) * a) := by
  induction d with
  | @word i x w tag s hw htag hs hfinite =>
    have hone : ((i + 1 : Nat) - i : ℝ) * a = a := by
      rw [Nat.cast_succ, add_sub_cancel_left, one_mul]
    rw [hone]
    exact hword w (List.mem_of_getElem? hw) tag s hs
  | unary r hr below ih =>
    calc r.score + below.score
        ≤ 0 + below.score := by gcongr; exact hunary r hr
      _ ≤ _ := by rw [zero_add]; exact ih
  | @binary i k j r hr left right ihl ihr =>
    have hsum : ((j - i : ℝ)) * a = (k - i) * a + (j - k) * a := by ring
    calc r.score + left.score + right.score
        ≤ 0 + .value ((k - i) * a) + .value ((j - k) * a) := by
          gcongr
          exact hbinary r hr
      _ = _ := by rw [zero_add, hsum]; rfl

end Derivation

namespace Parser

variable {settings : Settings} {trees : List Tree} {p : Parser RealScore} {sentence : List String}
  {r : ParseResult RealScore}

theorem probability_eq (hok : r.failed = false) :
    r.probability = RealScore.probability r.logProbability := by
  rw [ParseResult.probability, hok]
  rfl

namespace IsTrained

variable (h : p.IsTrained settings trees)

include h

/-- The score of a result is that of a derivation. -/
theorem exists_derivation_score (hr : p.parse sentence = .ok r) (hok : r.failed = false) :
    ∃ (x : Symbol) (d : Derivation p.grammar p.scores sentence x 0 sentence.length),
      r.logProbability = d.score ∧ d.score ≠ ⊥ := by
  obtain ⟨c, x, d, hchart, hx, -, hderive, -⟩ := h.exists_derivation_of_parse hr hok
  refine ⟨x, d, ?_, ?_⟩
  · rw [h.logProbability_eq hr hok hchart hx hderive, h.treeScore_tree d]
  · obtain ⟨c', -, hchart', -, -, hc, -⟩ := h.exists_parse (h.answers (h.words_of_parse hr))
    exact (h.isExact hc).score_ne_bot d

/-- A bound of the likelihoods of all words bounds the probability of a result. -/
theorem probability_le (hr : p.parse sentence = .ok r) (hok : r.failed = false) {b : ℝ} (hb : 0 < b)
    (hq : ∀ w ∈ sentence, ∀ tag q, p.lexicon.estimate? ℝ (some w) tag = some (.likelihood q) → q ≤ b) :
    0 < r.probability ∧ r.probability ≤ b ^ sentence.length ∧
      r.logProbability ≤ .value (sentence.length * Real.log b) := by
  obtain ⟨x, d, hscore, hne⟩ := h.exists_derivation_score hr hok
  have hle : d.score ≤ .value (sentence.length * Real.log b) := by
    have hd := d.score_le (RealScore.unary_nonpos h.grammar) (RealScore.binary_nonpos h.grammar)
      fun w hw tag s hs => Lexicon.score?_le hs (hq w hw tag)
    rw [Nat.cast_zero, sub_zero] at hd
    exact hd
  rw [probability_eq hok, hscore]
  cases hd : d.score with
  | bottom => exact absurd hd hne
  | value a =>
    rw [hd] at hle
    refine ⟨Real.exp_pos a, ?_, hle⟩
    calc Real.exp a
        ≤ Real.exp (sentence.length * Real.log b) :=
          Real.exp_le_exp.mpr (RealScore.value_le_value.mp hle)
      _ = b ^ sentence.length := by rw [Real.exp_nat_mul, Real.exp_log hb]

end IsTrained

/-- The likelihoods of a lexicon are positive and below nine fourths, and lexicons with the same threshold
come as near to this bound as one likes, when some known word can be smoothed. When a likelihood is at most
one can be read off the counts; it is whenever the tag was counted at least two times more than the word. So
a sentence with a parse has a positive probability, which is at most nine fourths for each word, and at most
one when all tags were counted that often. -/
theorem probability_le_pow (threshold : Int) (pairs : List (Word × String)) {x : Lexicon}
    (hlexicon : x = (Lexicon.empty threshold).addAll pairs) :
    (∀ w tag q, x.estimate? Rat w tag = some (.likelihood q) →
      0 < q ∧ q < 9 / 4 ∧
        (q ≤ 1 ↔ x.pairWeight Rat w tag * ((1 + x.wordWeight w) * x.tokens) ≤
          x.wordWeight w * (x.tags.count tag * (x.tokens + x.types))) ∧
        ((pairs.map Prod.fst).count w + 2 ≤ (pairs.map Prod.snd).count tag → q ≤ 1)) ∧
    (2 ≤ threshold → ∀ b : Rat, b < 9 / 4 → ∃ more w tag q,
      ((Lexicon.empty threshold).addAll more).estimate? Rat w tag = some (.likelihood q) ∧ b < q) ∧
    (∀ (settings : Settings) (trees : List Tree) (p : Parser RealScore), train settings trees = .ok p →
      ∀ (sentence : List String) (r : ParseResult RealScore), p.parse sentence = .ok r →
      r.failed = false →
      0 < r.probability ∧ r.probability ≤ (9 / 4) ^ sentence.length ∧
        ((∀ w ∈ sentence, ∀ tag, p.lexicon.tags.count tag ≠ 0 →
          p.lexicon.words.count (some w) + 2 ≤ p.lexicon.tags.count tag) →
          r.probability ≤ 1 ∧ r.logProbability ≤ Score.zero)) := by
  refine ⟨?_, fun h b hb => Lexicon.exists_likelihood_gt h hb, ?_⟩
  · subst hlexicon
    intro w tag q hq
    have hx := Lexicon.counted_addAll threshold pairs
    have ht := Lexicon.countedTypes_addAll threshold pairs
    refine ⟨Lexicon.likelihood_pos hq, Lexicon.likelihood_lt hq hx ht, Lexicon.likelihood_le_one_iff hq,
      fun hcount => ?_⟩
    rw [← hx.words_count, ← hx.tags_count] at hcount
    exact Lexicon.likelihood_le_one hq hx ht hcount
  · intro settings trees p hp sentence r hr hok
    have h := isTrained_of_train hp
    have ht : p.lexicon.CountedTypes ((annotated settings trees).flatMap Tree.tagged) := by
      rw [lexicon_of_train hp]
      exact Lexicon.countedTypes_addAll _ _
    obtain ⟨hpos, hle, -⟩ := h.probability_le hr hok (by norm_num)
      fun w _ tag q hq => (Lexicon.likelihood_lt hq h.lexicon ht).le
    refine ⟨hpos, hle, fun hcount => ?_⟩
    obtain ⟨-, hone, hlog⟩ := h.probability_le hr hok one_pos fun w hw tag q hq =>
      Lexicon.likelihood_le_one hq h.lexicon ht (hcount w hw tag (Lexicon.counted_of_likelihood hq).2)
    rw [one_pow] at hone
    rw [Real.log_one, mul_zero] at hlog
    exact ⟨hone, hlog⟩

/-- The sentence of a tree that a parser was trained on has a parse. -/
theorem exists_parse_of_tree {t : Tree} (sentence : List String) (hhist : t.hasHistories = true)
    (hcount : ∀ u ∈ t.annotate.nodes, u.production?.isSome)
    (hsize : 3 * t.annotate.nodes.length ≤ 2 ^ 63) (hroot : t.label? = some Settings.default.root)
    (hwords : t.leaves = sentence.map some) :
    ∃ (p : Parser RealScore) (r : ParseResult RealScore), train Settings.default [t] = .ok p ∧
      p.parse sentence = .ok r ∧ r.failed = false ∧ p.treeScore t.annotate ≤ r.logProbability := by
  obtain ⟨p, hp⟩ := exists_train_of_tree hhist hcount hsize
  have h := isTrained_of_train hp
  obtain ⟨x, d, hx, htree, hknown⟩ :=
    h.exists_derivation_of_tree (List.mem_singleton.mpr rfl) rfl hroot hwords
  obtain ⟨r, hr, hok, -, hle⟩ := h.exists_parse_ge hknown hx d
  rw [← h.treeScore_tree d, htree] at hle
  exact ⟨p, r, hp, hr, hok, hle⟩

/-- A tree with three words under the same tag. -/
def threeTags : Tree :=
  .node "ROOT" [.node "A" [.ofWord "a"], .node "A" [.ofWord "b"], .node "A" [.ofWord "c"]]

theorem annotate_threeTags : threeTags.annotate =
    .node "ROOT" [.node "A^ROOT" [.ofWord "a"], .node "@ROOT->_A" [.node "A^ROOT" [.ofWord "b"],
      .node "@ROOT->_A_A" [.node "A^ROOT" [.ofWord "c"]]]] := rfl

theorem tagged_threeTags : (annotated Settings.default [threeTags]).flatMap Tree.tagged =
    [(some "a", "A^ROOT"), (some "b", "A^ROOT"), (some "c", "A^ROOT")] := by
  have hannotated : annotated Settings.default [threeTags] = [threeTags.annotate] := rfl
  rw [hannotated, List.flatMap_singleton, annotate_threeTags, Tree.tagged, Tree.subtrees_eq,
    ← Tree.nodes_eq]
  simp only [Tree.nodes_node, Tree.nodes_leaf, Tree.ofWord, List.flatMap_cons, List.flatMap_nil]
  rfl

theorem probability_le_pow_threeTags :
    (∃ q, ((Lexicon.empty 10).addAll (Lexicon.skewedPairs 1)).estimate? Rat (some "a") "A" =
      some (.likelihood q) ∧ 1 < q ∧ q < 9 / 4) ∧
    (∃ more w tag q, ((Lexicon.empty 10).addAll more).estimate? Rat w tag = some (.likelihood q) ∧ 2 < q) ∧
    ∃ (p : Parser RealScore) (r : ParseResult RealScore), train Settings.default [threeTags] = .ok p ∧
      p.parse ["a", "b", "c"] = .ok r ∧ r.failed = false ∧ r.probability ≤ 1 := by
  obtain ⟨hlikelihood, hsharp, hparser⟩ := probability_le_pow 10 (Lexicon.skewedPairs 1) rfl
  refine ⟨?_, hsharp (by decide) 2 (by norm_num), ?_⟩
  · have hq := Lexicon.likelihood_skewedPairs (ρ := Rat) (Lexicon.countedTypes_addAll 10 _)
      (Lexicon.counted_addAll 10 (Lexicon.skewedPairs 1)) (by decide)
    exact ⟨_, hq, by norm_num, (hlikelihood _ _ _ hq).2.1⟩
  · obtain ⟨p, r, hp, hr, hok, -⟩ := exists_parse_of_tree (t := threeTags) ["a", "b", "c"] rfl
      (by simp [annotate_threeTags, Tree.production?]) (by simp [annotate_threeTags]) rfl rfl
    have hcounted := (isTrained_of_train hp).lexicon
    rw [tagged_threeTags] at hcounted
    refine ⟨p, r, hp, hr, hok, ((hparser _ _ p hp _ r hr hok).2.2 ?_).1⟩
    intro w hw tag htag
    rw [hcounted.tags_count] at htag ⊢
    rw [hcounted.words_count]
    obtain rfl : tag = "A^ROOT" := by
      simpa using List.count_pos_iff.mp (Nat.pos_of_ne_zero htag)
    simp only [List.mem_cons, List.not_mem_nil, or_false] at hw
    rcases hw with rfl | rfl | rfl <;> decide

/-- The likelihood of the only word that was counted. -/
theorem likelihood_oneWord {ρ : Type} [Probability ρ] [Field ρ] [LinearOrder ρ] [LawfulProbability ρ] :
    ((Lexicon.empty 10).addAll [(some "a", "ROOT")]).estimate? ρ (some "a") "ROOT" =
      some (.likelihood (3 / 2)) := by
  obtain ⟨q, hq⟩ := (Lexicon.counted_addAll 10 [(some "a", "ROOT")]).exists_likelihood (ρ := ρ)
    (List.mem_singleton.mpr rfl)
  have hpair : ((Lexicon.empty 10).addAll [(some "a", "ROOT")]).pairWeight ρ (some "a") "ROOT" =
      1 + 1 / 1 := by
    rw [Lexicon.pairWeight_of_isRare ρ (some "a") "ROOT" rfl]
    change ((1 : Nat) + (1 : Nat) / (1 : Nat) : ρ) = _
    rw [Nat.cast_one]
  rw [hq, (Lexicon.likelihood_eq hq).2, hpair]
  change some (Lexicon.Estimate.likelihood ((1 + 1 / 1) / (1 : Nat) * ((1 + (2 : Nat)) / (2 : Nat)) *
    ((1 : Nat) / ((1 : Nat) + (1 : Nat)) : ρ))) = _
  norm_num

theorem tagged_oneWord : (annotated Settings.default [oneWord]).flatMap Tree.tagged =
    [(some "a", "ROOT")] := by
  have hannotated : annotated Settings.default [oneWord] = [oneWord] := rfl
  rw [hannotated, List.flatMap_singleton, Tree.tagged, Tree.subtrees_eq, ← Tree.nodes_eq, nodes_oneWord]
  rfl

/-- One word makes its sentence more probable than one. -/
theorem one_lt_probability_oneWord : ∃ (p : Parser RealScore) (r : ParseResult RealScore),
    train Settings.default [oneWord] = .ok p ∧ p.parse ["a"] = .ok r ∧ r.failed = false ∧
      p.lexicon.estimate? Rat (some "a") "ROOT" = some (.likelihood (3 / 2)) ∧
      Score.zero < r.logProbability ∧ 1 < r.probability := by
  have hannotate : oneWord.annotate = oneWord := rfl
  obtain ⟨p, r, hp, hr, hok, hle⟩ := exists_parse_of_tree (t := oneWord) ["a"] rfl
    (by rw [hannotate, nodes_oneWord, List.forall_mem_singleton]; rfl)
    (by rw [hannotate, nodes_oneWord]; decide) rfl rfl
  have hlexicon : p.lexicon = (Lexicon.empty 10).addAll [(some "a", "ROOT")] := by
    rw [lexicon_of_train hp, Lexicon.ofTrees, tagged_oneWord]
    rfl
  have hscore : p.treeScore oneWord = .value (Real.log (3 / 2)) := by
    rw [oneWord, Tree.ofWord, treeScore_word, nodeScore, Lexicon.score?, hlexicon, likelihood_oneWord]
    exact RealScore.log_eq (by norm_num)
  have hlog : 0 < Real.log (3 / 2) := Real.log_pos (by norm_num)
  have hq : p.lexicon.estimate? Rat (some "a") "ROOT" = some (.likelihood (3 / 2)) := by
    rw [hlexicon]
    exact likelihood_oneWord
  rw [hannotate, hscore] at hle
  refine ⟨p, r, hp, hr, hok, hq, ?_⟩
  rw [probability_eq hok]
  cases hs : r.logProbability with
  | bottom =>
    rw [hs] at hle
    exact RealScore.noConfusion (le_bot_iff.mp hle)
  | value a =>
    rw [hs, RealScore.value_le_value] at hle
    have ha : 0 < a := hlog.trans_le hle
    exact ⟨RealScore.value_lt_value.mpr ha, Real.one_lt_exp_iff.mpr ha⟩

end Parser

end Constituency
