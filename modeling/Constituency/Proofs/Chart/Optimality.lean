import Constituency.Proofs.Chart.Reconstruction

/-!
# Best derivations

The scores of a finished chart are the greatest ones of all derivations: none is better, and each score
is the one of the derivation to which it leads back.
-/
namespace Constituency.Chart

variable {σ : Type} [Score σ]

/-- The greatest one of some scores, or the score of what cannot be done when there are none. -/
def IsBestOf [OrderedScore σ] (scores : Set σ) (s : σ) : Prop :=
  (scores.Nonempty → IsGreatest scores s) ∧ (s = Score.bottom ↔ scores = ∅)

/-- The scores of all derivations of a symbol over a span. -/
def derivationScores (g : Grammar σ) (scores : String → String → Option σ) (sentence : List String)
    (x : Symbol) (i j : Nat) : Set σ :=
  {s | ∃ d : Derivation g scores sentence x i j, d.score = s}

/-- The scores of all derivations of a symbol over a span with a binary rule at the top. -/
def binaryScores (g : Grammar σ) (scores : String → String → Option σ) (sentence : List String)
    (x : Symbol) (i j : Nat) : Set σ :=
  {s | ∃ d : Derivation g scores sentence x i j, d.isBinary = true ∧ d.score = s}

section Laws

variable [LawfulScore σ] {g : Grammar σ} {closure : Closure σ}
  {scores : String → String → Option σ} {sentence : List String} {root : String} {c : Chart σ}

/-- A bound that is attained, unless it is the score of what cannot be done, is the best score. -/
theorem isBestOf_of_bound {S : Set σ} {s : σ} (hne : ⊥ ∉ S) (hle : ∀ t ∈ S, t ≤ s)
    (hmem : s ≠ ⊥ → s ∈ S) : IsBestOf S s := by
  have hbot : S.Nonempty → s ≠ ⊥ := by
    rintro ⟨t, ht⟩ rfl
    exact hne (le_bot_iff.mp (hle t ht) ▸ ht)
  refine ⟨fun hS => ⟨hmem (hbot hS), hle⟩, fun hs => ?_, fun hS => ?_⟩
  · by_contra hS
    exact hbot (Set.nonempty_iff_ne_empty.mpr hS) hs
  · by_contra hs
    exact Set.notMem_empty s (hS ▸ hmem hs)

namespace IsExact

variable (h : IsExact g closure scores sentence root c)

include h

theorem score_ne_bot {x : Symbol} {i j : Nat} (d : Derivation g scores sentence x i j) :
    d.score ≠ ⊥ := by
  induction d with
  | word w tag s hw htag hs hfinite => exact Score.isFinite_eq_true.mp hfinite
  | unary r hr below ih =>
    rw [Derivation.score, Score.add_eq, ne_eq, Score.add_eq_bot, not_or]
    exact ⟨h.unary_ne r hr, ih⟩
  | binary r hr left right ihl ihr =>
    rw [Derivation.score, Score.add_eq, Score.add_eq, ne_eq, Score.add_eq_bot, Score.add_eq_bot,
      not_or, not_or]
    exact ⟨⟨h.binary_ne r hr, ihl⟩, ihr⟩

theorem isBestOf_unary {i j x : Nat} (hj : j ≤ sentence.length) (hx : x < g.numSymbols) :
    IsBestOf (derivationScores g scores sentence x i j) ((c.cell i j).unary.score x) := by
  refine isBestOf_of_bound ?_ ?_ fun hs => ?_
  · rintro ⟨d, hd⟩
    exact h.score_ne_bot d hd
  · rintro _ ⟨d, rfl⟩
    exact (h.score_le d).1
  · obtain ⟨d, -, hscore, -⟩ := h.exists_derive hj hx true rfl hs
    exact ⟨d, hscore⟩

theorem isBestOf_binary {i j x : Nat} (hj : j ≤ sentence.length) (hx : x < g.numSymbols) :
    IsBestOf (binaryScores g scores sentence x i j) ((c.cell i j).binary.score x) := by
  refine isBestOf_of_bound ?_ ?_ fun hs => ?_
  · rintro ⟨d, -, hd⟩
    exact h.score_ne_bot d hd
  · rintro _ ⟨d, htop, rfl⟩
    exact (h.score_le d).2 htop
  · obtain ⟨d, -, hscore, -, htop⟩ := h.exists_derive hj hx false rfl hs
    exact ⟨d, htop rfl, hscore⟩

theorem rootScore_eq : c.rootScore = match g.vocabulary.find? root with
    | some x => (c.cell 0 sentence.length).unary.score x
    | none => Score.bottom := by
  rw [rootScore, h.rootSymbol?_eq, h.length_eq]
  cases g.vocabulary.find? root <;> rfl

end IsExact

end Laws

/-- After parsing, the unary layer has the score of a best derivation of every symbol over every span,
and the binary layer that of a best one with a binary rule at the top. So the score of the chart is the
one of a best derivation of the root, and it is bad exactly when the root is unknown or has none. -/
theorem isBestOf_score {σ ε : Type} [Score σ] [LawfulScore σ] (v : Vocabulary)
    (binary : List (BinaryRule σ)) (unary : List (UnaryRule σ)) (g : Grammar σ)
    (hg : Grammar.ofRules? v binary unary = .ok g) (hb : ∀ r ∈ g.binary, r.score ≠ Score.bottom)
    (hu : ∀ r ∈ g.unary, r.score ≠ Score.bottom) (hc : NoPositiveCycle g.unary) (closure : Closure σ)
    (hcl : Closure.ofRules? g.numSymbols g.unary = .ok closure)
    (lexicon : String → String → Except ε (Option σ)) (scores : String → String → Option σ)
    (sentence : List String) (hlex : Answers g.vocabulary lexicon sentence scores) (root : String) :
    ∃ c, parse g closure lexicon sentence root = .ok c ∧
      (∀ i j x : Nat, i ≤ sentence.length → j ≤ sentence.length → x < g.numSymbols →
        (∃ s, c.score (some x) i j true = .ok s ∧
          IsBestOf (derivationScores g scores sentence x i j) s) ∧
        ∃ s, c.score (some x) i j false = .ok s ∧ IsBestOf (binaryScores g scores sentence x i j) s) ∧
      (∀ x, g.vocabulary.find? root = some x →
        IsBestOf (derivationScores g scores sentence x 0 sentence.length) c.rootScore) ∧
      (g.vocabulary.find? root = none → c.rootScore = Score.bottom) ∧
      (c.hasParse = false ↔ g.vocabulary.find? root = none ∨
        ∃ x, g.vocabulary.find? root = some x ∧
          IsEmpty (Derivation g scores sentence x 0 sentence.length)) := by
  obtain ⟨c, hparse, h⟩ := exists_isExact hg hcl hb hu hc hlex root
  have hlen := h.length_eq
  have hroot : ∀ x, g.vocabulary.find? root = some x →
      IsBestOf (derivationScores g scores sentence x 0 sentence.length) c.rootScore := fun x hx => by
    rw [h.rootScore_eq, hx]
    exact h.isBestOf_unary le_rfl (IsExact.lt_of_find? hx)
  have hnone : g.vocabulary.find? root = none → c.rootScore = Score.bottom := fun hx => by
    rw [h.rootScore_eq, hx]
  refine ⟨c, hparse, fun i j x hi hj hx => ⟨⟨_, ?_, h.isBestOf_unary hj hx⟩, _, ?_,
    h.isBestOf_binary hj hx⟩, hroot, hnone, ?_⟩
  · exact score_eq h.grammar_eq (by omega) (by omega) hx true
  · exact score_eq h.grammar_eq (by omega) (by omega) hx false
  · have hbad : c.hasParse = false ↔ c.rootScore = Score.bottom := by
      rw [hasParse, ← Bool.not_eq_true, Score.isFinite_eq_true, not_not]
      exact Iff.rfl
    rw [hbad]
    cases hx : g.vocabulary.find? root with
    | none => simpa using hnone hx
    | some x =>
      rw [(hroot x hx).2, Set.eq_empty_iff_forall_notMem]
      constructor
      · exact fun hall => Or.inr ⟨x, rfl, ⟨fun d => hall d.score ⟨d, rfl⟩⟩⟩
      · rintro (hx | ⟨y, hy, hempty⟩)
        · exact absurd hx (by simp)
        · rintro s ⟨d, -⟩
          obtain rfl := Option.some.inj hy
          exact hempty.false d

theorem isBestOf_score_tiny : ∃ closure c,
    Grammar.ofRules? tinyGrammar.vocabulary tinyGrammar.binary tinyGrammar.unary = .ok tinyGrammar ∧
    (∀ r ∈ tinyGrammar.binary, r.score ≠ Score.bottom) ∧
    (∀ r ∈ tinyGrammar.unary, r.score ≠ Score.bottom) ∧ NoPositiveCycle tinyGrammar.unary ∧
    Closure.ofRules? tinyGrammar.numSymbols tinyGrammar.unary = .ok closure ∧
    Answers tinyGrammar.vocabulary tinyLexicon ["b", "b"] tinyScores ∧
    parse tinyGrammar closure tinyLexicon ["b", "b"] "S" = .ok c ∧
    IsGreatest (derivationScores tinyGrammar tinyScores ["b", "b"] 0 0 2) c.rootScore := by
  have hb : ∀ r ∈ tinyGrammar.binary, r.score ≠ Score.bottom := by decide
  have hu : ∀ r ∈ tinyGrammar.unary, r.score ≠ Score.bottom := by decide
  obtain ⟨closure, hcl⟩ := exists_tinyClosure
  obtain ⟨c, hparse, -, hroot, -⟩ := isBestOf_score tinyGrammar.vocabulary tinyGrammar.binary
    tinyGrammar.unary tinyGrammar ofRules?_tinyGrammar hb hu noPositiveCycle_tinyGrammar closure hcl
    tinyLexicon tinyScores ["b", "b"] (answers_tinyLexicon _) "S"
  exact ⟨closure, c, ofRules?_tinyGrammar, hb, hu, noPositiveCycle_tinyGrammar, hcl,
    answers_tinyLexicon _, hparse, (hroot 0 rfl).1 ⟨_, tinyDerivation, rfl⟩⟩

end Constituency.Chart
