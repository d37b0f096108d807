import Constituency.Eval.Evaluator
import Constituency.Proofs.Eval.Pooling

/-!
# What an evaluator keeps

A pair of trees is comparable if it has the same words twice or a failure to parse. Only a comparable pair
changes an evaluation (`enterPair_of_isComparable`, `enterPair_of_words`), so pairs that are all entered with
a result leave what they add up to when they are compared in a run (`run_eq_ok_after`). The numbers of tags on
the two sides are compared only when scores are asked for: those of a pair for its line, after it has been
added, and those of an evaluation in the end. What counts then are the tags of all comparable pairs together
(`length_tags_after`, `scores_after`).
-/
namespace Constituency

theorem Tree.joinWords_map_some (ws : List String) : joinWords (ws.map some) = some (" ".intercalate ws) := by
  have hmap : (ws.map some).mapM id = some ws := by
    induction ws with
    | nil => rfl
    | cons w ws ih => rw [List.map_cons, List.mapM_cons, ih]; rfl
  rw [joinWords, hmap, Option.map_some]

/-! ### Comparable pairs -/

namespace TreePair

instance (p : TreePair) : Decidable p.IsFailure :=
  inferInstanceAs (Decidable (p.candidate.leaves = [Comparison.failureWord] ∧
    p.gold.leaves ≠ [Comparison.failureWord]))

/-- Whether the candidate has the words of the gold tree or is a failure to parse. -/
def IsComparable (p : TreePair) : Prop := p.IsFailure ∨ p.candidate.leaves = p.gold.leaves

instance (p : TreePair) : Decidable p.IsComparable :=
  inferInstanceAs (Decidable (p.IsFailure ∨ p.candidate.leaves = p.gold.leaves))

/-- The number of tags of the gold tree. -/
def goldTagCount (p : TreePair) : Nat := p.gold.tagged.length

/-- The number of tags of the candidate; a failure to parse has a place for each word. -/
def tagCount (p : TreePair) : Nat := if p.IsFailure then p.gold.leaves.length else p.candidate.tagged.length

variable {skip : List String} {p : TreePair}

theorem compare_of_isComparable (skip : List String) (h : p.IsComparable) :
    ∃ c, p.compare skip = .ok c ∧ c.goldTags.length = p.goldTagCount ∧ c.tags.length = p.tagCount := by
  by_cases hfailure : p.IsFailure
  · have htags : p.tagCount = p.gold.leaves.length := if_pos hfailure
    exact ⟨_, if_pos hfailure, rfl, by rw [List.length_map, htags]⟩
  · have htags : p.tagCount = p.candidate.tagged.length := if_neg hfailure
    exact ⟨_, (if_neg hfailure).trans (if_pos (h.resolve_left hfailure)), rfl,
      by rw [List.length_map, htags]⟩

/-- Trees over different words are refused; the reason has their words if there is no gap among them. -/
theorem compare_of_not_isComparable (skip : List String) (h : ¬p.IsComparable) :
    p.compare skip =
      match Tree.joinWords p.candidate.leaves, Tree.joinWords p.gold.leaves with
      | some c, some g => .error (.mismatch c g)
      | _, _ => .error .missingWord := by
  obtain ⟨hfailure, hwords⟩ := not_or.mp h
  exact (if_neg hfailure).trans (if_neg hwords)

theorem exists_compare_eq_error (skip : List String) (h : ¬p.IsComparable) :
    ∃ err, p.compare skip = .error err := by
  rw [compare_of_not_isComparable skip h]
  split <;> exact ⟨_, rfl⟩

end TreePair

/-! ### Scores and lines -/

namespace Comparison

theorem exists_line {c : Comparison} (h : c.goldTags.length = c.tags.length) (keyWidth : Int) :
    ∃ s, c.line keyWidth = .ok s := by
  obtain ⟨s, hs, -⟩ := exists_scoresOf c.goldConstituents c.constituents h
  rw [line, scores, hs]
  exact ⟨_, rfl⟩

end Comparison

namespace Evaluation

theorem add_ne (e : Evaluation) (c : Comparison) : e.add c ≠ e := by
  intro h
  have hsentences : e.sentences + 1 = e.sentences := congrArg Evaluation.sentences h
  omega

/-- The scores of an evaluation and its summary need as many tags on either side, and nothing else. -/
theorem scores_eq (e : Evaluation) : ∃ s text,
    e.scores = (if e.goldTags.length = e.tags.length then .ok s else .error .lengths) ∧
    e.summary = if e.goldTags.length = e.tags.length then .ok text else .error .lengths := by
  by_cases hlength : e.goldTags.length = e.tags.length
  · obtain ⟨s, hscores, -, -, hsummary⟩ := exists_scores hlength
    exact ⟨s, _, hscores.trans (if_pos hlength).symm, hsummary.trans (if_pos hlength).symm⟩
  · obtain ⟨hscores, hsummary⟩ := scores_of_length_ne hlength
    exact ⟨⟨⟨"", "", "", ""⟩, ""⟩, "", hscores.trans (if_neg hlength).symm,
      hsummary.trans (if_neg hlength).symm⟩

end Evaluation

/-! ### Entering pairs -/

namespace Evaluator

variable {v : Evaluator} {e : Evaluation} {p : TreePair}

/-- Enter a pair of trees. -/
def enterPair (v : Evaluator) (e : Evaluation) (p : TreePair) : Evaluation × Except EntryError Entry :=
  v.enter e p.key p.gold p.candidate

theorem enterPair_of_error {err : ComparisonError} (h : p.compare v.skip = .error err) :
    v.enterPair e p = (e, .error (.comparison err)) := by
  rw [TreePair.compare] at h
  rw [enterPair, enter, Evaluation.compare, h]
  rfl

theorem enterPair_of_ok {c : Comparison} (h : p.compare v.skip = .ok c) :
    v.enterPair e p = (e.add c, v.entry c) := by
  rw [TreePair.compare] at h
  rw [enterPair, enter, Evaluation.compare, h]
  rfl

theorem entry_of_lengths_ne (h : v.verbose = true) {c : Comparison}
    (hlength : c.goldTags.length ≠ c.tags.length) : v.entry c = .error (.tagging .lengths) := by
  rw [entry, h, line, Comparison.scores, Comparison.scoresOf_of_length_ne _ _ hlength]
  rfl

/-- A comparison has a result unless there are lines and its own has different numbers of tags, or its key is
too wide. -/
theorem exists_entry_eq_ok_iff (v : Evaluator) (c : Comparison) : (∃ x, v.entry c = .ok x) ↔
    (v.verbose = true → c.goldTags.length = c.tags.length ∧ v.keyWidth.natAbs < 2 ^ 63) := by
  cases hverbose : v.verbose with
  | false =>
    have hentry : v.entry c = .ok ⟨c, none⟩ := by
      rw [entry, hverbose]
      rfl
    exact iff_of_true ⟨_, hentry⟩ fun h => absurd h Bool.false_ne_true
  | true =>
    rw [forall_prop_of_true rfl]
    by_cases hlength : c.goldTags.length = c.tags.length
    · have hwidth : isReachable v.keyWidth.natAbs = true ↔ v.keyWidth.natAbs < 2 ^ 63 := by
        rw [isReachable_iff]
        omega
      obtain ⟨s, hs, -⟩ := Comparison.exists_scoresOf c.goldConstituents c.constituents hlength
      obtain ⟨text, htext⟩ := Comparison.exists_line hlength v.keyWidth
      rw [and_iff_right hlength, entry, hverbose, line, Comparison.scores, hs, htext, ← hwidth]
      cases isReachable v.keyWidth.natAbs with
      | false => exact iff_of_false (fun ⟨x, hx⟩ => by cases hx) Bool.false_ne_true
      | true => exact iff_of_true ⟨_, rfl⟩ rfl
    · rw [entry_of_lengths_ne hverbose hlength]
      exact iff_of_false (fun ⟨x, hx⟩ => by cases hx) (fun h => hlength h.1)

/-- Whether a pair of trees is given a line: it has as many tags on either side, and the number of columns
for its key has 63 bits. -/
def HasLine (v : Evaluator) (p : TreePair) : Prop :=
  p.goldTagCount = p.tagCount ∧ v.keyWidth.natAbs < 2 ^ 63

/-- A comparable pair is added, whether or not it has a result. -/
theorem enterPair_of_isComparable (v : Evaluator) (e : Evaluation) (h : p.IsComparable) :
    (∃ c, p.compare v.skip = .ok c ∧ (v.enterPair e p).1 = e.add c) ∧
    ((∃ x, (v.enterPair e p).2 = .ok x) ↔ (v.verbose = true → v.HasLine p)) ∧
    (v.verbose = true → p.goldTagCount ≠ p.tagCount →
      (v.enterPair e p).2 = .error (.tagging .lengths)) := by
  obtain ⟨c, hc, hgold, htags⟩ := TreePair.compare_of_isComparable v.skip h
  rw [enterPair_of_ok hc, HasLine, ← hgold, ← htags]
  exact ⟨⟨c, hc, rfl⟩, exists_entry_eq_ok_iff v c, fun hverbose hlength =>
    entry_of_lengths_ne hverbose hlength⟩

/-- Trees over different words are refused, and nothing changes. -/
theorem enterPair_of_words (v : Evaluator) (e : Evaluation) (h : ¬p.IsComparable) {gs cs : List String}
    (hgold : p.gold.leaves = gs.map some) (hcandidate : p.candidate.leaves = cs.map some) :
    v.enterPair e p =
      (e, .error (.comparison (.mismatch (" ".intercalate cs) (" ".intercalate gs)))) := by
  have hcompare := TreePair.compare_of_not_isComparable v.skip h
  rw [hgold, hcandidate, Tree.joinWords_map_some, Tree.joinWords_map_some] at hcompare
  exact enterPair_of_error hcompare

/-! ### Runs -/

/-- What pairs of trees leave of an evaluation, those that failed among them. -/
def after (v : Evaluator) (pairs : List TreePair) : Evaluation :=
  pairs.foldl (fun e p => (v.enterPair e p).1) .empty

/-- A pair of trees that is entered with a result is comparable. -/
theorem isComparable_of_enterPair {x : Entry} (h : (v.enterPair e p).2 = .ok x) : p.IsComparable := by
  by_contra hp
  obtain ⟨err, herr⟩ := TreePair.exists_compare_eq_error v.skip hp
  rw [enterPair_of_error herr] at h
  cases h

/-- Pairs of trees that are compared one after the other are the comparable ones, and what they add up to is
what they leave when they are entered. -/
theorem run_eq_ok_iff_after (v : Evaluator) {pairs : List TreePair} :
    Evaluation.run v.skip pairs = .ok e ↔ (∀ p ∈ pairs, p.IsComparable) ∧ v.after pairs = e := by
  rw [Evaluation.run, after]
  generalize Evaluation.empty = start
  induction pairs generalizing start with
  | nil => simp [pure, Except.pure]
  | cons p pairs ih =>
    rw [List.foldlM_cons, List.foldl_cons, List.forall_mem_cons, Evaluation.compare]
    change ((p.compare v.skip).map _).map _ >>= _ = _ ↔ _
    by_cases hp : p.IsComparable
    · obtain ⟨c, hc, -⟩ := TreePair.compare_of_isComparable v.skip hp
      rw [hc, and_iff_right hp, enterPair_of_ok hc]
      exact ih (start.add c)
    · obtain ⟨err, herr⟩ := TreePair.exists_compare_eq_error v.skip hp
      rw [herr]
      exact iff_of_false (fun h => by cases h) fun h => hp h.1.1

/-- Calls that all have a result leave the evaluation of a run. -/
theorem run_eq_ok_after {pairs : List TreePair} (h : ∀ p ∈ pairs, ∃ e x, (v.enterPair e p).2 = .ok x) :
    Evaluation.run v.skip pairs = .ok (v.after pairs) := by
  refine (run_eq_ok_iff_after v).mpr ⟨fun p hp => ?_, rfl⟩
  obtain ⟨e, x, hx⟩ := h p hp
  exact isComparable_of_enterPair hx

/-- The tags of the gold trees of all comparable pairs. -/
def goldTagTotal (pairs : List TreePair) : Nat :=
  ((pairs.filter fun p => p.IsComparable).map (·.goldTagCount)).sum

/-- The tags of the candidates of all comparable pairs. -/
def tagTotal (pairs : List TreePair) : Nat :=
  ((pairs.filter fun p => p.IsComparable).map (·.tagCount)).sum

/-- Entering a pair adds its tags if it is comparable, whether or not it has a result. -/
theorem length_tags_enterPair (v : Evaluator) (e : Evaluation) (p : TreePair) :
    (v.enterPair e p).1.goldTags.length = e.goldTags.length + goldTagTotal [p] ∧
      (v.enterPair e p).1.tags.length = e.tags.length + tagTotal [p] := by
  by_cases hp : p.IsComparable
  · obtain ⟨c, hc, hgold, htags⟩ := TreePair.compare_of_isComparable v.skip hp
    rw [enterPair_of_ok hc]
    simp [Evaluation.add, goldTagTotal, tagTotal, hp, hgold, htags]
  · obtain ⟨err, herr⟩ := TreePair.exists_compare_eq_error v.skip hp
    rw [enterPair_of_error herr]
    simp [goldTagTotal, tagTotal, hp]

theorem length_tags_after (v : Evaluator) (pairs : List TreePair) :
    (v.after pairs).goldTags.length = goldTagTotal pairs ∧ (v.after pairs).tags.length = tagTotal pairs := by
  induction pairs using List.reverseRecOn with
  | nil => exact ⟨rfl, rfl⟩
  | append_singleton pairs p ih =>
    have hstep : v.after (pairs ++ [p]) = (v.enterPair (v.after pairs) p).1 := by
      rw [after, List.foldl_append]
      rfl
    have hgold : goldTagTotal (pairs ++ [p]) = goldTagTotal pairs + goldTagTotal [p] := by
      simp [goldTagTotal]
    have htags : tagTotal (pairs ++ [p]) = tagTotal pairs + tagTotal [p] := by
      simp [tagTotal]
    rw [hstep, (length_tags_enterPair v _ p).1, (length_tags_enterPair v _ p).2, ih.1, ih.2, hgold, htags]
    exact ⟨rfl, rfl⟩

theorem goldTagTotal_eq {pairs : List TreePair}
    (h : ∀ p ∈ pairs, p.IsComparable → p.goldTagCount = p.tagCount) : goldTagTotal pairs = tagTotal pairs := by
  refine congrArg List.sum (List.map_congr_left fun p hp => ?_)
  obtain ⟨hmem, hcomparable⟩ := List.mem_filter.mp hp
  exact h p hmem (of_decide_eq_true hcomparable)

/-- The scores and the summary of an evaluation exist if and only if the comparable pairs together have as
many tags on either side. -/
theorem scores_after (v : Evaluator) (pairs : List TreePair) : ∃ s text,
    (v.after pairs).scores =
      (if goldTagTotal pairs = tagTotal pairs then .ok s else .error .lengths) ∧
    (v.after pairs).summary =
      if goldTagTotal pairs = tagTotal pairs then .ok text else .error .lengths := by
  obtain ⟨hgold, htags⟩ := length_tags_after v pairs
  rw [← hgold, ← htags]
  exact (v.after pairs).scores_eq

/-- After any pairs of trees, let two trees with words at their leaves be entered. If the words differ, the
pair is refused and nothing changes. Otherwise it is added, and fails if and only if there are lines and it
has none; so these are the failures that leave a trace. The scores and the summary of the evaluation exist
if and only if the comparable pairs together have as many tags on either side, as they have if each does. -/
theorem enterPair_after (v : Evaluator) (pairs : List TreePair) {p : TreePair} {gs cs : List String}
    (hgold : p.gold.leaves = gs.map some) (hcandidate : p.candidate.leaves = cs.map some) :
    let e := v.after pairs
    let r := v.enterPair e p
    (¬p.IsComparable →
      r = (e, .error (.comparison (.mismatch (" ".intercalate cs) (" ".intercalate gs))))) ∧
    (p.IsComparable →
      (∃ c, p.compare v.skip = .ok c ∧ r.1 = e.add c) ∧
      ((∃ x, r.2 = .ok x) ↔ (v.verbose = true → v.HasLine p)) ∧
      (v.verbose = true → p.goldTagCount ≠ p.tagCount → r.2 = .error (.tagging .lengths))) ∧
    ((∃ err, r.2 = .error err) ∧ r.1 ≠ e ↔ v.verbose = true ∧ p.IsComparable ∧ ¬v.HasLine p) ∧
    (∃ s text,
      e.scores = (if goldTagTotal pairs = tagTotal pairs then .ok s else .error .lengths) ∧
      e.summary = if goldTagTotal pairs = tagTotal pairs then .ok text else .error .lengths) ∧
    ((∀ q ∈ pairs, q.IsComparable → q.goldTagCount = q.tagCount) →
      goldTagTotal pairs = tagTotal pairs) := by
  intro e r
  refine ⟨fun h => enterPair_of_words v e h hgold hcandidate, enterPair_of_isComparable v e, ?_,
    scores_after v pairs, goldTagTotal_eq⟩
  by_cases hp : p.IsComparable
  · -- the pair is counted, so a failure leaves a trace
    obtain ⟨⟨c, -, hadd⟩, hok, -⟩ := enterPair_of_isComparable v e hp
    have hfails : (∃ err, r.2 = .error err) ↔ ¬∃ x, r.2 = .ok x := by
      cases r.2 <;> simp
    have hchanged : r.1 ≠ e := hadd ▸ e.add_ne c
    rw [and_iff_left hchanged, hfails, hok, Classical.not_imp, and_iff_right hp]
  · have hsame : r.1 = e := congrArg Prod.fst (enterPair_of_words v e hp hgold hcandidate)
    exact iff_of_false (fun h => h.2 hsame) fun h => hp h.2.1

/-- A tree with two tags, and one over the same words with one. -/
def missingTag : TreePair :=
  ⟨.number 1, .node "ROOT" [.node "S" [.node "A" [.ofWord "a"], .node "B" [.ofWord "b"]]],
    .node "ROOT" [.node "S" [.ofWord "a", .node "B" [.ofWord "b"]]]⟩

theorem goldTagCount_missingTag : missingTag.goldTagCount = 2 := by
  rw [TreePair.goldTagCount, Tree.tagged, Tree.subtrees_eq]
  rfl

theorem tagCount_missingTag : missingTag.tagCount = 1 := by
  rw [TreePair.tagCount, if_neg (by decide), Tree.tagged, Tree.subtrees_eq]
  rfl

theorem enterPair_after_missingTag :
    let v : Evaluator := ⟨["ROOT"], 8, true⟩
    let e := v.after [⟨.number 0, missingTag.gold, missingTag.gold⟩]
    let r := v.enterPair e missingTag
    missingTag.gold.leaves = ["a", "b"].map some ∧ missingTag.candidate.leaves = ["a", "b"].map some ∧
      r.2 = .error (.tagging .lengths) ∧ r.1 ≠ e ∧ ∃ text, e.summary = .ok text := by
  intro v e r
  have hgold : missingTag.gold.leaves = ["a", "b"].map some := by decide
  have hcandidate : missingTag.candidate.leaves = ["a", "b"].map some := by decide
  obtain ⟨-, hadded, htrace, ⟨s, text, -, hsummary⟩, htotal⟩ :=
    enterPair_after v [⟨.number 0, missingTag.gold, missingTag.gold⟩] hgold hcandidate
  have hne : missingTag.goldTagCount ≠ missingTag.tagCount := by
    rw [goldTagCount_missingTag, tagCount_missingTag]
    decide
  have hequal : goldTagTotal [⟨.number 0, missingTag.gold, missingTag.gold⟩] =
      tagTotal [⟨.number 0, missingTag.gold, missingTag.gold⟩] := by
    refine htotal fun q hq _ => ?_
    obtain rfl := List.mem_singleton.mp hq
    exact (if_neg (by decide)).symm
  refine ⟨hgold, hcandidate, (hadded (by decide)).2.2 rfl hne, ?_, text, ?_⟩
  · exact (htrace.mpr ⟨rfl, by decide, fun h => hne h.1⟩).2
  · rw [hsummary, if_pos hequal]

/-- A pair of trees over the same words, with different numbers of tags: with lines, entering it fails and
leaves a trace, and in any case the evaluation has neither scores nor a summary. -/
theorem enterPair_leaves_trace_missingTag :
    let v : Evaluator := ⟨["ROOT"], 8, true⟩
    let w : Evaluator := ⟨["ROOT"], 8, false⟩
    (v.enterPair .empty missingTag).2 = .error (.tagging .lengths) ∧
      (v.enterPair .empty missingTag).1 ≠ .empty ∧
      (∃ x, (w.enterPair .empty missingTag).2 = .ok x) ∧
      (w.after [missingTag]).scores = .error .lengths ∧
      (w.after [missingTag]).summary = .error .lengths := by
  intro v w
  have hp : missingTag.IsComparable := by decide
  have hne : missingTag.goldTagCount ≠ missingTag.tagCount := by
    rw [goldTagCount_missingTag, tagCount_missingTag]
    decide
  have htotal : goldTagTotal [missingTag] ≠ tagTotal [missingTag] := by
    simpa [goldTagTotal, tagTotal, hp] using hne
  obtain ⟨⟨c, -, hadd⟩, -, herror⟩ := enterPair_of_isComparable v .empty hp
  obtain ⟨-, hok, -⟩ := enterPair_of_isComparable w .empty hp
  obtain ⟨s, text, hscores, hsummary⟩ := scores_after w [missingTag]
  rw [if_neg htotal] at hscores hsummary
  refine ⟨herror rfl hne, ?_, hok.mpr fun h => absurd h Bool.false_ne_true, hscores, hsummary⟩
  exact hadd ▸ Evaluation.add_ne .empty c

end Evaluator

end Constituency
