import Constituency.Proofs.Except
import Constituency.Proofs.Parser.Training

/-!
# Which sentences are parsed

A lexicon gives up on a word only if the word is unknown and no word is smoothed (`scores_eq_none_iff`), and
then the whole sentence fails with this error (`IsTrained.parse_eq_error`). On every other sentence a
trained parser comes to a result, whatever the scores are (`IsTrained.exists_parse`): when the root has a
finite score a derivation of it is rebuilt, and otherwise the tree of a failure is given.
-/
namespace Constituency.Parser

variable {σ ρ : Type} [Score σ] [Probability ρ] [LogScale σ ρ]

theorem wordScore_eq (p : Parser σ) (w tag : String) : p.wordScore w tag =
    (p.scores w tag).elim (.error .noEstimate) fun s => .ok (some s) := by
  unfold wordScore scores
  cases (p.lexicon.score? (some w) tag : Option σ) <;> rfl

namespace IsTrained

variable {settings : Settings} {trees : List Tree} {p : Parser σ} (h : p.IsTrained settings trees)

include h

theorem known_iff (w : Word) : p.lexicon.known w = true ↔ p.lexicon.words.count w ≠ 0 :=
  h.lexicon.isCounted_words.contains_iff

/-- The words for which a lexicon has an estimate for every tag. -/
theorem scores_eq_none_iff (w tag : String) :
    p.scores w tag = none ↔ p.lexicon.tokens ≠ 0 ∧ p.lexicon.tags.count tag ≠ 0 ∧
      p.lexicon.known (some w) = false ∧ settings.rareThreshold ≤ 0 := by
  rw [scores, Lexicon.score?_eq_none_iff, Lexicon.wordWeight_eq_zero_iff, h.lexicon.rareThreshold_eq,
    ← Bool.not_eq_true, h.known_iff, not_not]

/-- Smoothed or known words have an estimate. -/
theorem answers {sentence : List String} (hwords : 0 < settings.rareThreshold ∨
    p.lexicon.tokens = 0 ∨ ∀ w ∈ sentence, p.lexicon.known (some w) = true) :
    Chart.Answers p.grammar.vocabulary p.wordScore sentence p.scores := by
  intro w hw tag _
  rw [wordScore_eq]
  cases hs : p.scores w tag with
  | some s => rfl
  | none =>
    obtain ⟨htokens, -, hunknown, hthreshold⟩ := (h.scores_eq_none_iff w tag).mp hs
    rcases hwords with hpos | hzero | hknown
    · omega
    · exact absurd hzero htokens
    · rw [hknown w hw] at hunknown
      exact absurd hunknown (by decide)

/-- The lexicon gives up on a word that is neither smoothed nor known. -/
theorem parse_eq_error {sentence : List String} (hthreshold : settings.rareThreshold ≤ 0)
    (htokens : p.lexicon.tokens ≠ 0) {w : String} (hw : w ∈ sentence)
    (hunknown : p.lexicon.known (some w) = false) : p.parse sentence = .error .noEstimate := by
  obtain ⟨tag, htag, hcount⟩ := h.exists_tag htokens
  have hnone := (h.scores_eq_none_iff w tag).mpr ⟨htokens, hcount, hunknown, hthreshold⟩
  obtain ⟨e, hrow⟩ := exists_mapM_eq_error (f := fun tag => (p.wordScore w tag).map Chart.tagScore)
    htag (by rw [wordScore_eq, hnone]; rfl)
  obtain ⟨e', htags⟩ := exists_mapM_eq_error (f := fun w =>
    p.grammar.vocabulary.labels.toList.mapM fun tag => (p.wordScore w tag).map Chart.tagScore) hw hrow
  -- Wherever the lexicon gives up at first, it says the same.
  obtain ⟨v, -, hv⟩ := exists_of_mapM_eq_error htags
  obtain ⟨t, -, ht⟩ := exists_of_mapM_eq_error hv
  have he : e' = .noEstimate := by
    rw [wordScore_eq] at ht
    cases hs : p.scores v t with
    | some s => simp [hs, Except.map] at ht
    | none =>
      rw [hs] at ht
      exact (Except.error.inj ht).symm
  have hscores : Chart.tagScores p.grammar.vocabulary p.wordScore sentence = .error .noEstimate :=
    he ▸ htags
  rw [parse, chart, Chart.parse, hscores]
  rfl

/-- A sentence that has a result has smoothed or known words. -/
theorem words_of_parse {sentence : List String} {r : ParseResult σ} (hr : p.parse sentence = .ok r) :
    0 < settings.rareThreshold ∨ p.lexicon.tokens = 0 ∨
      ∀ w ∈ sentence, p.lexicon.known (some w) = true := by
  by_contra hno
  simp only [not_or, not_lt, not_forall, Bool.not_eq_true] at hno
  obtain ⟨hthreshold, htokens, w, hw, hunknown⟩ := hno
  rw [h.parse_eq_error hthreshold htokens hw hunknown] at hr
  exact absurd hr (by simp)

/-- The result of a sentence for which the lexicon does not give up. -/
theorem exists_parse [GroundedScore σ] {sentence : List String}
    (hlex : Chart.Answers p.grammar.vocabulary p.wordScore sentence p.scores) :
    ∃ c r, p.chart sentence = .ok c ∧ p.parse sentence = .ok r ∧
      (r.logProbability = c.rootScore ∧ r.failed = !c.hasParse) ∧
      Chart.IsGrounded p.grammar p.closure p.scores sentence settings.root c ∧
      ((r.failed = true ∧ r.tree = Chart.failureTree settings.root) ∨
        (r.failed = false ∧ ∃ (x : Nat) (d : Derivation p.grammar p.scores sentence x 0 sentence.length),
          p.grammar.vocabulary.find? settings.root = some x ∧ c.rootSymbol? = some x ∧
          c.derive x 0 c.length true = .ok d.tree ∧ r.tree = d.tree.unannotate)) := by
  obtain ⟨c, hchart, hc⟩ :=
    Chart.exists_isGrounded h.grammar.proper h.closure hlex p.settings.root
  rw [h.settings_eq] at hc
  have hparse : p.parse sentence = resultOf c := by
    rw [parse, chart, hchart]
    rfl
  cases hroot : c.hasParse with
  | false =>
    have hbest := hc.bestTree_of_not_hasParse hroot
    refine ⟨c, ⟨Chart.failureTree settings.root, c.rootScore, true⟩, hchart, ?_,
      ⟨rfl, by rw [hroot]; rfl⟩, hc, Or.inl ⟨rfl, rfl⟩⟩
    rw [hparse, resultOf, hbest, hroot]
    rfl
  | true =>
    obtain ⟨x, d, hx, hsymbol, hderive, hbest⟩ := hc.exists_derivation hroot
    refine ⟨c, ⟨d.tree.unannotate, c.rootScore, false⟩, hchart, ?_, ⟨rfl, by rw [hroot]; rfl⟩, hc,
      Or.inr ⟨rfl, x, d, hx, hsymbol, hderive, rfl⟩⟩
    rw [hparse, resultOf, hbest, hroot]
    rfl

/-- The derivation of the root behind a result that is no failure. -/
theorem exists_derivation_of_parse [GroundedScore σ] {sentence : List String} {r : ParseResult σ}
    (hr : p.parse sentence = .ok r) (hok : r.failed = false) :
    ∃ (c : Chart σ) (x : Nat) (d : Derivation p.grammar p.scores sentence x 0 sentence.length),
      p.chart sentence = .ok c ∧ p.grammar.vocabulary.find? settings.root = some x ∧
      c.rootSymbol? = some x ∧ c.derive x 0 c.length true = .ok d.tree ∧
      r.tree = d.tree.unannotate := by
  obtain ⟨c, r', hchart, hparse, -, -, hresult⟩ := h.exists_parse (h.answers (h.words_of_parse hr))
  obtain rfl := Except.ok.inj (hr.symm.trans hparse)
  rcases hresult with ⟨hfailed, -⟩ | ⟨-, x, d, hx, hsymbol, hderive, htree⟩
  · rw [hok] at hfailed
    exact absurd hfailed (by decide)
  · exact ⟨c, x, d, hchart, hx, hsymbol, hderive, htree⟩

end IsTrained

/-- A trained parser has a result for every sentence, unless the threshold is zero and the sentence has a
word that was not trained on: then the lexicon gives up. In a result is the tree of a derivation of the
root, or else the tree of a failure. Nothing else can fail in the lexicon: it divides by no zero, and takes
the logarithms of positive numbers. -/
theorem parse_eq_ok_iff [GroundedScore σ] (settings : Settings) (trees : List Tree) (p : Parser σ)
    (hp : train settings trees = .ok p) (sentence : List String) :
    ((∃ r, p.parse sentence = .ok r) ↔ 0 < settings.rareThreshold ∨ p.lexicon.tokens = 0 ∨
      ∀ w ∈ sentence, p.lexicon.known (some w) = true) ∧
    (∀ e, p.parse sentence = .error e → e = .noEstimate) ∧
    (∀ r, p.parse sentence = .ok r →
      (r.failed = true ∧ r.tree = Chart.failureTree settings.root) ∨
      (r.failed = false ∧ ∃ (x : Nat) (d : Derivation p.grammar p.scores sentence x 0 sentence.length),
        p.grammar.vocabulary.find? settings.root = some x ∧ r.tree = d.tree.unannotate)) ∧
    (p.lexicon.tokens ≠ 0 → p.lexicon.types ≠ 0) ∧
    (∀ w tag q, p.lexicon.estimate? Rat w tag = some (.likelihood q) →
      0 < p.lexicon.tagShare Rat tag ∧ 0 < q) := by
  have h := isTrained_of_train hp
  have htypes : p.lexicon.tokens ≠ 0 → p.lexicon.types ≠ 0 := by
    intro htokens
    rw [h.lexicon.tokens_eq, ← Nat.pos_iff_ne_zero] at htokens
    exact (h.lexicon.types_pos (List.length_pos_iff.mp htokens)).ne'
  have hsafe : ∀ w tag q, p.lexicon.estimate? Rat w tag = some (.likelihood q) →
      0 < p.lexicon.tagShare Rat tag ∧ 0 < q := by
    intro w tag q hq
    have hcounted := Lexicon.counted_of_likelihood hq
    exact ⟨Lexicon.tagShare_pos hcounted.1 hcounted.2, Lexicon.likelihood_pos hq⟩
  have hresult : (∃ r, p.parse sentence = .ok r) ↔ 0 < settings.rareThreshold ∨
      p.lexicon.tokens = 0 ∨ ∀ w ∈ sentence, p.lexicon.known (some w) = true := by
    constructor
    · rintro ⟨r, hr⟩
      exact h.words_of_parse hr
    · intro hwords
      obtain ⟨-, r, -, hparse, -⟩ := h.exists_parse (h.answers hwords)
      exact ⟨r, hparse⟩
  refine ⟨hresult, ?_, ?_, htypes, hsafe⟩
  · intro e he
    have hno : ¬ ∃ r, p.parse sentence = .ok r := by
      rintro ⟨r, hr⟩
      rw [hr] at he
      exact absurd he (by simp)
    simp only [hresult, not_or, not_lt, not_forall, Bool.not_eq_true] at hno
    obtain ⟨hthreshold, htokens, w, hw, hunknown⟩ := hno
    rw [h.parse_eq_error hthreshold htokens hw hunknown] at he
    exact (Except.error.inj he).symm
  · intro r hr
    obtain ⟨c, r', -, hparse, -, -, hcases⟩ := h.exists_parse (h.answers (h.words_of_parse hr))
    obtain rfl := Except.ok.inj (hparse.symm.trans hr)
    rcases hcases with hfail | ⟨hok, x, d, hx, -, -, htree⟩
    · exact Or.inl hfail
    · exact Or.inr ⟨hok, x, d, hx, htree⟩

/-- A tree over one word. -/
def oneWord : Tree := .node "ROOT" [.ofWord "a"]

theorem annotated_oneWord (threshold : Int) :
    annotated { Settings.default with rareThreshold := threshold } [oneWord] = [oneWord] := rfl

theorem nodes_oneWord : oneWord.nodes = [oneWord] := by
  simp [oneWord]

theorem mem_tagged_oneWord {threshold : Int} {w : Word} {tag : String} :
    (w, tag) ∈ (annotated { Settings.default with rareThreshold := threshold } [oneWord]).flatMap
      Tree.tagged ↔ w = some "a" ∧ tag = "ROOT" := by
  rw [annotated_oneWord, List.flatMap_singleton, Tree.mem_tagged, nodes_oneWord]
  simp [oneWord, and_comm]

/-- A parser can be trained on one word, whatever the threshold is. -/
theorem exists_train_oneWord (threshold : Int) : ∃ p : Parser Float,
    train { Settings.default with rareThreshold := threshold } [oneWord] = .ok p := by
  refine exists_train ?_ ?_ fun g hg => ?_
  · intro t ht
    rw [List.mem_singleton.mp (List.mem_of_mem_filter ht)]
    rfl
  · rw [annotated_oneWord, List.forall_mem_singleton, nodes_oneWord, List.forall_mem_singleton]
    rfl
  · have hunary : g.unary = [] := by
      refine List.eq_nil_iff_forall_not_mem.mpr fun r hr => ?_
      have hmem := hg.unary_mem r hr
      rw [annotated_oneWord, Productions.productionsOf, List.flatMap_singleton, nodes_oneWord] at hmem
      simp [oneWord, Tree.production?, UnaryRule.production] at hmem
    rw [hunary]
    exact Closure.exists_ofRules?_nil g.numSymbols

theorem parse_eq_ok_iff_oneWord : ∃ p : Parser Float,
    train Settings.default [oneWord] = .ok p ∧ ∃ r, p.parse ["b"] = .ok r := by
  obtain ⟨p, hp⟩ := exists_train_oneWord 10
  exact ⟨p, hp, (parse_eq_ok_iff Settings.default [oneWord] p hp ["b"]).1.mpr (Or.inl (by decide))⟩

/-- With the threshold zero, which options can set, a word that was not trained on is no failure to parse
the sentence: the lexicon gives up. -/
theorem parse_eq_error_oneWord : ∃ (settings : Settings) (p : Parser Float),
    Settings.ofOptions [("--rarethreshold", "0")] = .ok settings ∧
      train settings [oneWord] = .ok p ∧ p.parse ["b"] = .error .noEstimate := by
  obtain ⟨p, hp⟩ := exists_train_oneWord 0
  have h := isTrained_of_train hp
  have htokens : p.lexicon.tokens ≠ 0 := by
    rw [h.lexicon.tokens_eq, ← Nat.pos_iff_ne_zero]
    exact List.length_pos_of_mem (mem_tagged_oneWord.mpr ⟨rfl, rfl⟩)
  have hunknown : p.lexicon.known (some "b") = false := by
    rw [← Bool.not_eq_true, h.lexicon.known_iff]
    rintro ⟨tag, hmem⟩
    exact absurd (mem_tagged_oneWord.mp hmem).1 (by decide)
  exact ⟨_, p, rfl, hp, h.parse_eq_error le_rfl htokens (List.mem_singleton.mpr rfl) hunknown⟩

end Constituency.Parser
