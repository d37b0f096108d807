import Constituency.Proofs.Chart.Optimality
import Constituency.Proofs.Parser.Totality
import Constituency.Proofs.Parser.TreeScore
import Constituency.Proofs.Score.Real

/-!
# Parsers in exact numbers

In exact numbers every word has a score for the tags with which it was counted, whatever the threshold is
(`exists_score`), no rule has a positive score, and charts hold the scores of best derivations. So the
result of a parser is no worse than any derivation (`exists_parse_ge`), and it has the score of its own tree
(`logProbability_eq`).
-/
namespace Constituency.Parser

variable {settings : Settings} {trees : List Tree} {p : Parser RealScore}

/-- In exact numbers training fails on no trees that can be counted, unless the symbols become too large. -/
theorem exists_train_exact (hhist : ∀ t ∈ trees.filter (isShort settings), t.hasHistories = true)
    (hcount : ∀ t ∈ annotated settings trees, ∀ u ∈ t.nodes, u.production?.isSome)
    (hsize : 3 * (Productions.productionsOf (annotated settings trees)).length ≤ 2 ^ 63) :
    ∃ p : Parser RealScore, train settings trees = .ok p := by
  refine exists_train hhist hcount fun g hg => ?_
  have hreach : ∀ r ∈ g.unary, isReachable r.parent = true := by
    intro r hr
    obtain ⟨hlo, hhi⟩ := (hg.proper.unary r hr).1
    have hle := hg.size_le
    have hlow : (-9223372036854775808 : Int) ≤ 0 := by decide
    have hhigh : (g.numSymbols : Int) ≤ 9223372036854775808 := by omega
    rw [isReachable, Bool.and_eq_true, decide_eq_true_eq, decide_eq_true_eq]
    exact ⟨hlow.trans hlo, hhi.trans_le hhigh⟩
  exact Closure.exists_ofRules? hg.proper.unary (RealScore.unary_ne_bot hg)
    (RealScore.noPositiveCycle_unary hg).proper hreach

/-- Training on one tree whose nodes can be counted. -/
theorem exists_train_of_tree {t : Tree} (hhist : t.hasHistories = true)
    (hcount : ∀ u ∈ t.annotate.nodes, u.production?.isSome)
    (hsize : 3 * t.annotate.nodes.length ≤ 2 ^ 63) :
    ∃ p : Parser RealScore, train Settings.default [t] = .ok p := by
  have hannotated : annotated Settings.default [t] = [t.annotate] := rfl
  refine exists_train_exact ?_ ?_ ?_
  · intro u hu
    rw [List.mem_singleton.mp (List.mem_of_mem_filter hu)]
    exact hhist
  · rw [hannotated, List.forall_mem_singleton]
    exact hcount
  · have hle := List.length_filterMap_le Tree.production? t.annotate.nodes
    rw [hannotated, Productions.productionsOf, List.flatMap_singleton]
    omega

namespace IsTrained

variable (h : p.IsTrained settings trees) {sentence : List String}

include h

/-- The chart of a trained parser is one in exact numbers. -/
theorem isExact {c : Chart RealScore}
    (hc : Chart.IsGrounded p.grammar p.closure p.scores sentence settings.root c) :
    Chart.IsExact p.grammar p.closure p.scores sentence settings.root c where
  toIsFinished := hc.toIsFinished
  proper := hc.proper
  lists := hc.lists
  closure_proper := Closure.isProper_of_ofRules? hc.proper.unary h.closure
  binary_ne := RealScore.binary_ne_bot h.grammar
  unary_ne := RealScore.unary_ne_bot h.grammar
  cycles := RealScore.noPositiveCycle_unary h.grammar

/-- A word has a score for every tag with which it was counted. -/
theorem exists_score {w tag : String}
    (hpair : (some w, tag) ∈ (annotated settings trees).flatMap Tree.tagged) :
    ∃ s, p.scores w tag = some s ∧ Score.isFinite s = true := by
  obtain ⟨q, hq⟩ := h.lexicon.exists_likelihood (ρ := ℝ) hpair
  have hpos : 0 < q := Lexicon.likelihood_pos hq
  refine ⟨LogScale.log q, ?_, Score.isFinite_eq_true.mpr (RealScore.log_ne_bot hpos)⟩
  rw [scores, Lexicon.score?, hq]
  rfl

/-- The result for a sentence of known words is no worse than any derivation of the root. -/
theorem exists_parse_ge (hknown : ∀ w ∈ sentence, p.lexicon.known (some w) = true) {x : Nat}
    (hx : p.grammar.vocabulary.find? settings.root = some x)
    (d : Derivation p.grammar p.scores sentence x 0 sentence.length) :
    ∃ r, p.parse sentence = .ok r ∧ r.failed = false ∧ d.score ≠ ⊥ ∧ d.score ≤ r.logProbability := by
  obtain ⟨c, r, -, hparse, ⟨hscore, hfailed⟩, hc, -⟩ :=
    h.exists_parse (h.answers (Or.inr (Or.inr hknown)))
  have hexact := h.isExact hc
  have hroot : c.rootScore = (c.cell 0 sentence.length).unary.score x := by
    rw [hexact.rootScore_eq, hx]
  have hne := hexact.score_ne_bot d
  have hle := (hexact.score_le d).1
  rw [← hroot] at hle
  have hfinite : c.hasParse = true := by
    rw [Chart.hasParse, Score.isFinite_eq_true]
    intro hbot
    rw [hbot, le_bot_iff] at hle
    exact hne hle
  refine ⟨r, hparse, ?_, hne, ?_⟩
  · rw [hfailed, hfinite]
    rfl
  · rw [hscore]
    exact hle

/-- The logarithm of the probability of a result is the score of the derivation that is rebuilt. -/
theorem logProbability_eq {r : ParseResult RealScore} (hr : p.parse sentence = .ok r)
    (hok : r.failed = false) {c : Chart RealScore} (hchart : p.chart sentence = .ok c) {x : Nat}
    (hx : p.grammar.vocabulary.find? settings.root = some x) {t : Tree}
    (hderive : c.derive x 0 c.length true = .ok t) : r.logProbability = p.treeScore t := by
  obtain ⟨c', r', hchart', hparse, ⟨hscore, hfailed⟩, hc, -⟩ :=
    h.exists_parse (h.answers (h.words_of_parse hr))
  obtain rfl := Except.ok.inj (hchart.symm.trans hchart')
  obtain rfl := Except.ok.inj (hr.symm.trans hparse)
  have hexact := h.isExact hc
  have hroot : c.rootScore = (c.cell 0 sentence.length).unary.score x := by
    rw [hexact.rootScore_eq, hx]
  have hne : c.rootScore ≠ ⊥ := by
    rw [hok] at hfailed
    have hfinite : c.hasParse = true := by simpa using hfailed.symm
    exact Score.isFinite_eq_true.mp hfinite
  obtain ⟨d, htree, hd, -⟩ := hexact.exists_derive le_rfl (Vocabulary.lt_size_of_find? hx) true
    hroot.symm hne
  rw [hexact.length_eq] at hderive
  obtain rfl : d.tree = t := Except.ok.inj (htree.symm.trans hderive)
  rw [hscore, ← hd, h.treeScore_tree d]

end IsTrained

end Constituency.Parser
