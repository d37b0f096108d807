import Constituency.Eval.Evaluation
import Constituency.Proofs.Eval.Measures
import Constituency.Proofs.Tree.Traversal
import Mathlib.Data.List.Forall2
import Mathlib.Data.List.Perm.Basic

/-!
# Pooled evaluation

Comparisons with names of their own are pooled without mixing (`foldl_add_eq`), so the counts of an
evaluation are sums over its comparisons. Its summary has the percentages of what is counted
(`Evaluation.Reports`), and does not depend on the order of the comparisons (`summary_pooled_perm`). The share
of right tags is the one part that looks at the places in a sequence; it does not depend on the order either,
as no comparison has more tags of the gold tree than of the candidate.
-/
namespace Constituency

open OrderedMap (IsCounted)

namespace Tree

theorem countP_isPreterminal_le (t : Tree) : t.nodes.countP isPreterminal ≤ t.leaves.length := by
  induction t using Tree.induction with
  | leaf w => simp
  | node l cs ih =>
    rw [nodes_node, leaves_node, List.countP_cons, List.countP_flatMap, List.length_flatMap]
    split
    · next h =>
      match cs, h with
      | [leaf w], _ => simp
    · exact List.sum_le_sum ih

/-- There are no more tags than words. -/
theorem length_tagged_le (t : Tree) : t.tagged.length ≤ t.leaves.length := by
  refine (List.length_filterMap_le _ _).trans ?_
  rw [subtrees_eq, ← nodes_eq, ← List.countP_eq_length_filter]
  exact countP_isPreterminal_le t

end Tree

/-! ### Comparisons -/

/-- Two trees for the sentence of a name. -/
structure TreePair where
  key : SentenceKey
  gold : Tree
  candidate : Tree

namespace TreePair

/-- Compare the trees, leaving out the constituents labeled in `skip`. -/
def compare (skip : List String) (p : TreePair) : Except ComparisonError Comparison :=
  Comparison.ofTrees p.key p.gold p.candidate skip

/-- Whether the candidate is a failure to parse. -/
def IsFailure (p : TreePair) : Prop :=
  p.candidate.leaves = [Comparison.failureWord] ∧ p.gold.leaves ≠ [Comparison.failureWord]

end TreePair

namespace Comparison

/-- Whether the constituents of the candidate are those of the gold tree. -/
def IsExact (c : Comparison) : Prop := ∀ b, c.goldConstituents.count b = c.constituents.count b

instance (c : Comparison) : Decidable c.IsExact :=
  inferInstanceAs (Decidable (∀ b, c.goldConstituents.count b = c.constituents.count b))

theorem same_eq_isExact (c : Comparison) : c.constituents.same c.goldConstituents = decide c.IsExact := by
  rw [Bool.eq_iff_iff, Counts.same_iff, decide_eq_true_iff]
  exact forall_congr' fun b => eq_comm

/-- What the comparison of two trees has to do with the trees. -/
structure IsOf (c : Comparison) (p : TreePair) : Prop where
  key : c.key = p.key
  gold : IsCounted c.goldConstituents
  candidate : IsCounted c.constituents
  /-- A failure has a place for the tag of each word; the gold tree has no more tags. -/
  length_goldTags_le : c.failed = true → c.goldTags.length ≤ c.tags.length
  /-- Otherwise the tags on each side are those of the tree. -/
  length_goldTags : c.failed = false →
    c.goldTags.length = p.gold.tagged.length ∧ c.tags.length = p.candidate.tagged.length
  failed : c.failed = true ↔ p.IsFailure

theorem isOf_of_compare {skip : List String} {p : TreePair} {c : Comparison} (h : p.compare skip = .ok c) :
    c.IsOf p := by
  rw [TreePair.compare, ofTrees] at h
  split_ifs at h with hfailure hwords
  · obtain rfl := Except.ok.inj h
    refine ⟨rfl, Counts.isCounted_ofList _, OrderedMap.isCounted_empty, fun _ => ?_, by simp, by simpa⟩
    rw [List.length_map]
    exact p.gold.length_tagged_le
  · obtain rfl := Except.ok.inj h
    refine ⟨rfl, Counts.isCounted_ofList _, Counts.isCounted_ofList _, by simp, fun _ => ⟨rfl, ?_⟩, ?_⟩
    · rw [List.length_map]
    · exact ⟨by simp, fun hp => absurd hp hfailure⟩
  · split at h <;> cases h

theorem isOf_of_forall₂ {skip : List String} {pairs : List TreePair} {cs : List Comparison}
    (h : List.Forall₂ (fun p c => p.compare skip = .ok c) pairs cs) :
    cs.map (·.key) = pairs.map (·.key) ∧ ∀ c ∈ cs, ∃ p ∈ pairs, c.IsOf p := by
  induction h with
  | nil => exact ⟨rfl, List.forall_mem_nil _⟩
  | @cons p c pairs cs hc _ ih =>
    have hof := isOf_of_compare hc
    refine ⟨by rw [List.map_cons, List.map_cons, hof.key, ih.1], List.forall_mem_cons.mpr ⟨?_, ?_⟩⟩
    · exact ⟨p, List.mem_cons_self .., hof⟩
    · intro c' hc'
      obtain ⟨p', hp', hof'⟩ := ih.2 c' hc'
      exact ⟨p', List.mem_cons_of_mem _ hp', hof'⟩

/-- Comparisons with names of their own, whose constituents were counted up. -/
structure ArePoolable (cs : List Comparison) : Prop where
  keys : (cs.map (·.key)).Nodup
  gold : ∀ c ∈ cs, IsCounted c.goldConstituents
  candidate : ∀ c ∈ cs, IsCounted c.constituents

theorem ArePoolable.perm {cs cs' : List Comparison} (h : ArePoolable cs) (hperm : cs.Perm cs') :
    ArePoolable cs' where
  keys := (hperm.map _).nodup_iff.mp h.keys
  gold c hc := h.gold c (hperm.mem_iff.mpr hc)
  candidate c hc := h.candidate c (hperm.mem_iff.mpr hc)

end Comparison

/-! ### A whole corpus -/

namespace Evaluation

/-- Compare pairs of trees, one after the other. -/
def run (skip : List String) (pairs : List TreePair) : Except ComparisonError Evaluation :=
  pairs.foldlM (fun e p => (e.compare p.key p.gold p.candidate skip).map Prod.fst) .empty

/-- Comparisons are made pair by pair, and added one after the other. -/
theorem run_eq_ok_iff {skip : List String} {pairs : List TreePair} {e : Evaluation} :
    run skip pairs = .ok e ↔
      ∃ cs, List.Forall₂ (fun p c => p.compare skip = .ok c) pairs cs ∧ cs.foldl add .empty = e := by
  unfold run
  generalize Evaluation.empty = start
  induction pairs generalizing start with
  | nil => simp [pure, Except.pure]
  | cons p pairs ih =>
    rw [List.foldlM_cons, Evaluation.compare]
    change ((p.compare skip).map _).map _ >>= _ = _ ↔ _
    cases hp : p.compare skip with
    | error err =>
      refine ⟨fun h => ?_, ?_⟩
      · cases h
      · rintro ⟨cs, hcs, -⟩
        obtain ⟨c, cs, hc, -, rfl⟩ := List.forall₂_cons_left_iff.mp hcs
        rw [hp] at hc
        cases hc
    | ok c =>
      refine (ih (start.add c)).trans ⟨?_, ?_⟩
      · rintro ⟨cs, hcs, rfl⟩
        exact ⟨c :: cs, .cons hp hcs, rfl⟩
      · rintro ⟨cs, hcs, rfl⟩
        obtain ⟨c', cs, hc', hrest, rfl⟩ := List.forall₂_cons_left_iff.mp hcs
        obtain rfl := Except.ok.inj (hp.symm.trans hc')
        exact ⟨cs, hrest, rfl⟩

/-- What comparisons with names of their own add up to. -/
def pooled (cs : List Comparison) : Evaluation where
  sentences := cs.length
  longest := (cs.map (·.words.length)).foldl max 0
  exact := cs.countP fun c => c.IsExact && !c.failed
  failures := cs.countP (·.failed)
  gold := Counts.pool (·.key) (·.goldConstituents) cs
  candidate := Counts.pool (·.key) (·.constituents) cs
  goldTags := cs.flatMap (·.goldTags)
  tags := cs.flatMap (·.tags)

theorem pooled_add {cs : List Comparison} {c : Comparison} (hc : c.key ∉ cs.map (·.key))
    (hgold : IsCounted c.goldConstituents) (hcandidate : IsCounted c.constituents) :
    (pooled cs).add c = pooled (cs ++ [c]) := by
  have hexact : (c.constituents.same c.goldConstituents && !c.failed) = (c.IsExact && !c.failed) := by
    rw [c.same_eq_isExact]
  simp only [add, hexact, pooled, Counts.addAll_pool hc hgold, Counts.addAll_pool hc hcandidate,
    List.length_append, List.map_append, List.foldl_append, List.countP_append, List.flatMap_append,
    List.countP_singleton, Evaluation.mk.injEq]
  refine ⟨rfl, rfl, ?_, ?_, trivial, trivial, ?_, ?_⟩
  · split_ifs <;> rfl
  · split_ifs <;> rfl
  · simp
  · simp

/-- Comparisons with names of their own are pooled without mixing. -/
theorem foldl_add_eq {cs : List Comparison} (h : Comparison.ArePoolable cs) :
    cs.foldl add .empty = pooled cs := by
  obtain ⟨hkeys, hgold, hcandidate⟩ := h
  induction cs using List.reverseRecOn with
  | nil => rfl
  | append_singleton cs c ih =>
    rw [List.map_append, List.map_singleton, ← List.concat_eq_append, List.nodup_concat] at hkeys
    rw [List.forall_mem_append, List.forall_mem_singleton] at hgold hcandidate
    rw [List.foldl_append, ih hkeys.2 hgold.1 hcandidate.1, List.foldl_cons, List.foldl_nil,
      pooled_add hkeys.1 hgold.2 hcandidate.2]

end Evaluation

/-! ### Percentages -/

/-- The four percentages of two multisets of constituents and two lists of tags: those of recall, precision
and F-measure of the multisets, and of the share of the words with the right tag. -/
structure Scores.AreOf {κ : Type} [DecidableEq κ] [Hashable κ] (s : Scores) (gold candidate : Counts κ)
    (goldTags : List (Word × String)) (tags : List (Word × Option String)) : Prop where
  labeledRecall : s.labeledRecall = Decimal.percentText (Measure.recallOf Decimal gold candidate)
  labeledPrecision : s.labeledPrecision = Decimal.percentText (Measure.precisionOf Decimal gold candidate)
  fMeasure : s.fMeasure = Decimal.percentText (Measure.fMeasure Decimal gold candidate Decimal.half)
  tagging : s.tagging = Decimal.percentText (Measure.quotient Decimal
    ((goldTags.zip tags).countP fun p => Comparison.sameTag p.1 p.2) goldTags.length)

namespace Comparison

theorem tagging_eq (gold : List (Word × String)) (candidate : List (Word × Option String)) :
    tagging gold candidate =
      if gold.length = candidate.length then
        .ok (Decimal.percentText (Measure.quotient Decimal
          ((gold.zip candidate).countP fun p => sameTag p.1 p.2) gold.length))
      else .error .lengths := by
  rw [tagging, Measure.accuracy]
  split_ifs
  · cases Measure.quotient Decimal _ _ <;> rfl
  · rfl

section

variable {κ : Type} [DecidableEq κ] [Hashable κ] {goldTags : List (Word × String)}
  {tags : List (Word × Option String)}

theorem exists_scoresOf (gold candidate : Counts κ) (h : goldTags.length = tags.length) :
    ∃ s, scoresOf gold candidate goldTags tags = .ok s ∧ s.AreOf gold candidate goldTags tags := by
  rw [scoresOf, tagging_eq, if_pos h]
  exact ⟨_, rfl, rfl, rfl, rfl, rfl⟩

theorem scoresOf_of_length_ne (gold candidate : Counts κ) (h : goldTags.length ≠ tags.length) :
    scoresOf gold candidate goldTags tags = .error .lengths := by
  rw [scoresOf, tagging_eq, if_neg h]
  rfl

end

end Comparison

namespace Evaluation

/-- The percentages of a corpus are those of its constituents and tags, and of the exact candidates among
all. -/
structure Reports (e : Evaluation) (s : CorpusScores) : Prop where
  scores : s.scores.AreOf e.gold e.candidate e.goldTags e.tags
  exact : s.exact = Decimal.percentText (Measure.quotient Decimal e.exact e.sentences)

variable {e : Evaluation}

/-- What a summary says of constituents. -/
def labeledLines (e : Evaluation) : List String := [
  "labeled recall:            " ++ Decimal.percentText (Measure.recallOf Decimal e.gold e.candidate),
  "labeled precision:         " ++ Decimal.percentText (Measure.precisionOf Decimal e.gold e.candidate),
  "labeled f-measure:         " ++ Decimal.percentText
    (Measure.fMeasure Decimal e.gold e.candidate Decimal.half)]

theorem Reports.labeledLines_infix {s : CorpusScores} (h : e.Reports s) :
    e.labeledLines <:+: e.summaryLines s := by
  refine ⟨(e.summaryLines s).take 5, (e.summaryLines s).drop 8, ?_⟩
  rw [labeledLines, ← h.scores.labeledRecall, ← h.scores.labeledPrecision, ← h.scores.fMeasure]
  rfl

theorem exists_scores (h : e.goldTags.length = e.tags.length) : ∃ s, e.scores = .ok s ∧ e.Reports s ∧
    e.labeledLines <:+: e.summaryLines s ∧ e.summary = .ok ("\n".intercalate (e.summaryLines s)) := by
  obtain ⟨s, hs, hof⟩ := Comparison.exists_scoresOf e.gold e.candidate h
  have hscores : e.scores = .ok ⟨s, e.exactText⟩ := by
    rw [scores, hs]
    rfl
  have hreports : e.Reports ⟨s, e.exactText⟩ := ⟨hof, rfl⟩
  refine ⟨⟨s, e.exactText⟩, hscores, hreports, hreports.labeledLines_infix, ?_⟩
  rw [summary, hscores]
  rfl

theorem scores_of_length_ne (h : e.goldTags.length ≠ e.tags.length) :
    e.scores = .error .lengths ∧ e.summary = .error .lengths := by
  rw [summary, scores, Comparison.scoresOf_of_length_ne _ _ h]
  exact ⟨rfl, rfl⟩

end Evaluation

/-! ### The order of comparisons -/

namespace Comparison

theorem zip_flatMap {α β γ : Type} {f : α → List β} {g : α → List γ} {l : List α}
    (h : ∀ a ∈ l, (f a).length = (g a).length) :
    (l.flatMap f).zip (l.flatMap g) = l.flatMap fun a => (f a).zip (g a) := by
  induction l with
  | nil => rfl
  | cons a l ih =>
    rw [List.forall_mem_cons] at h
    rw [List.flatMap_cons, List.flatMap_cons, List.zip_append h.1, ih h.2, List.flatMap_cons]

/-- Lists that are not longer than others item by item are as long in all only if each is. -/
theorem length_eq_of_length_flatMap_eq {α β γ : Type} {f : α → List β} {g : α → List γ} {l : List α}
    (hle : ∀ a ∈ l, (f a).length ≤ (g a).length) (h : (l.flatMap f).length = (l.flatMap g).length) :
    ∀ a ∈ l, (f a).length = (g a).length := by
  induction l with
  | nil => exact List.forall_mem_nil _
  | cons a l ih =>
    rw [List.forall_mem_cons] at hle
    rw [List.flatMap_cons, List.flatMap_cons, List.length_append, List.length_append] at h
    have hrest : (l.flatMap f).length ≤ (l.flatMap g).length := by
      rw [List.length_flatMap, List.length_flatMap]
      exact List.sum_le_sum hle.2
    exact List.forall_mem_cons.mpr ⟨by omega, ih hle.2 (by omega)⟩

/-- The share of right tags does not depend on the order of the comparisons, if none has more tags of the
gold tree. -/
theorem tagging_perm {cs cs' : List Comparison} (hperm : cs.Perm cs')
    (hle : ∀ c ∈ cs, c.goldTags.length ≤ c.tags.length) :
    tagging (cs.flatMap (·.goldTags)) (cs.flatMap (·.tags)) =
      tagging (cs'.flatMap (·.goldTags)) (cs'.flatMap (·.tags)) := by
  have hgold := (hperm.flatMap_right (·.goldTags)).length_eq
  have htags := (hperm.flatMap_right (·.tags)).length_eq
  rw [tagging_eq, tagging_eq, ← hgold, ← htags]
  split_ifs with hlength
  · have heach := length_eq_of_length_flatMap_eq hle hlength
    have heach' : ∀ c ∈ cs', c.goldTags.length = c.tags.length := fun c hc =>
      heach c (hperm.mem_iff.mpr hc)
    rw [zip_flatMap heach, zip_flatMap heach', (hperm.flatMap_right _).countP_eq]
  · rfl

theorem scoresOf_congr {κ : Type} [DecidableEq κ] [Hashable κ] {gold gold' candidate candidate' : Counts κ}
    {goldTags goldTags' : List (Word × String)} {tags tags' : List (Word × Option String)}
    (hgold : IsCounted gold) (hgold' : IsCounted gold') (hcandidate : IsCounted candidate)
    (hcandidate' : IsCounted candidate') (hsize : gold.size = gold'.size)
    (hsize' : candidate.size = candidate'.size)
    (hoverlap : gold.overlap candidate = gold'.overlap candidate')
    (htagging : tagging goldTags tags = tagging goldTags' tags') :
    scoresOf gold candidate goldTags tags = scoresOf gold' candidate' goldTags' tags' := by
  have hrecall : Measure.recallOf Decimal gold candidate = Measure.recallOf Decimal gold' candidate' := by
    rw [Measure.recallOf_eq _ hgold, Measure.recallOf_eq _ hgold', hsize, hoverlap]
  have hprecision :
      Measure.precisionOf Decimal gold candidate = Measure.precisionOf Decimal gold' candidate' := by
    rw [Measure.precisionOf_eq _ _ hcandidate, Measure.precisionOf_eq _ _ hcandidate', hsize', hoverlap]
  simp only [scoresOf, htagging, hrecall, hprecision, Measure.fMeasure]

end Comparison

namespace Evaluation

/-- The summary does not depend on the order of the comparisons. -/
theorem summary_pooled_perm {cs cs' : List Comparison} (hperm : cs.Perm cs')
    (h : Comparison.ArePoolable cs) (hle : ∀ c ∈ cs, c.goldTags.length ≤ c.tags.length) :
    (pooled cs).summary = (pooled cs').summary := by
  have h' := h.perm hperm
  have hsentences : (pooled cs).sentences = (pooled cs').sentences := hperm.length_eq
  have hlongest : (pooled cs).longest = (pooled cs').longest := (hperm.map _).foldl_eq 0
  have hexact : (pooled cs).exact = (pooled cs').exact := hperm.countP_eq _
  have hfailures : (pooled cs).failures = (pooled cs').failures := hperm.countP_eq _
  have hsize : (pooled cs).gold.size = (pooled cs').gold.size := by
    simp only [pooled, Counts.size_pool]
    exact (hperm.map _).sum_eq
  have hsize' : (pooled cs).candidate.size = (pooled cs').candidate.size := by
    simp only [pooled, Counts.size_pool]
    exact (hperm.map _).sum_eq
  have hoverlap : (pooled cs).gold.overlap (pooled cs).candidate =
      (pooled cs').gold.overlap (pooled cs').candidate := by
    simp only [pooled, Counts.overlap_pool h.keys h.candidate, Counts.overlap_pool h'.keys h'.candidate]
    exact (hperm.map _).sum_eq
  have hscores : Comparison.scoresOf (pooled cs).gold (pooled cs).candidate (pooled cs).goldTags
        (pooled cs).tags =
      Comparison.scoresOf (pooled cs').gold (pooled cs').candidate (pooled cs').goldTags (pooled cs').tags :=
    Comparison.scoresOf_congr (Counts.isCounted_pool h.keys h.gold) (Counts.isCounted_pool h'.keys h'.gold)
      (Counts.isCounted_pool h.keys h.candidate) (Counts.isCounted_pool h'.keys h'.candidate) hsize hsize'
      hoverlap (Comparison.tagging_perm hperm hle)
  have hlines (s : CorpusScores) : (pooled cs).summaryLines s = (pooled cs').summaryLines s := by
    simp only [summaryLines, hsentences, hlongest, hsize, hsize', hfailures]
  simp only [summary, scores, exactText, hsentences, hexact, hlines, hscores]

/-- Let sentences with names of their own be compared. The numbers of matched, gold and candidate
constituents are the sums over the comparisons, recall and precision the ratios of these sums, and the
F-measure is one if and only if there is a constituent and no comparison has a difference. Exact are the
comparisons without a difference that are no failures. The summary has the percentages of these measures, if
there are as many tags on either side. In any other order, the comparisons succeed too, with the same summary
if the two trees of each sentence have as many tags or the candidate is a failure. -/
theorem run_pools {skip : List String} {pairs : List TreePair} {e : Evaluation}
    (hkeys : (pairs.map (·.key)).Nodup) (hrun : run skip pairs = .ok e) :
    ∃ cs : List Comparison,
      List.Forall₂ (fun p c => p.compare skip = .ok c) pairs cs ∧
      e.gold.overlap e.candidate = (cs.map fun c => c.goldConstituents.overlap c.constituents).sum ∧
      e.gold.size = (cs.map fun c => c.goldConstituents.size).sum ∧
      e.candidate.size = (cs.map fun c => c.constituents.size).sum ∧
      Measure.recallOf Ratio e.gold e.candidate =
        .ok (Measure.ratioOf (e.gold.overlap e.candidate) e.gold.size) ∧
      Measure.precisionOf Ratio e.gold e.candidate =
        .ok (Measure.ratioOf (e.gold.overlap e.candidate) e.candidate.size) ∧
      (Measure.fMeasure Ratio e.gold e.candidate (.value (1 / 2)) = .ok (.value 1) ↔
        (0 < e.gold.size ∨ 0 < e.candidate.size) ∧ ∀ c ∈ cs, c.IsExact) ∧
      e.exact = cs.countP (fun c => c.IsExact && !c.failed) ∧
      (e.goldTags.length = e.tags.length → ∃ s, e.scores = .ok s ∧ e.Reports s ∧
        e.labeledLines <:+: e.summaryLines s ∧
          e.summary = .ok ("\n".intercalate (e.summaryLines s))) ∧
      ∀ pairs' : List TreePair, pairs'.Perm pairs → ∃ e', run skip pairs' = .ok e' ∧
        ((∀ p ∈ pairs, p.IsFailure ∨ p.gold.tagged.length = p.candidate.tagged.length) →
          e'.summary = e.summary) := by
  obtain ⟨cs, hcs, rfl⟩ := run_eq_ok_iff.mp hrun
  obtain ⟨hmap, hof⟩ := Comparison.isOf_of_forall₂ hcs
  have h : Comparison.ArePoolable cs := by
    refine ⟨hmap ▸ hkeys, fun c hc => ?_, fun c hc => ?_⟩ <;> obtain ⟨p, -, hp⟩ := hof c hc
    · exact hp.gold
    · exact hp.candidate
  have hgold : IsCounted (pooled cs).gold := Counts.isCounted_pool h.keys h.gold
  have hcandidate : IsCounted (pooled cs).candidate := Counts.isCounted_pool h.keys h.candidate
  rw [foldl_add_eq h]
  refine ⟨cs, hcs, Counts.overlap_pool h.keys h.candidate, Counts.size_pool .., Counts.size_pool ..,
    Measure.recallOf_ratio hgold _, Measure.precisionOf_ratio _ hcandidate, ?_, rfl, exists_scores, fun pairs' hperm => ?_⟩
  · rw [Measure.fMeasure_eq_one_iff hgold hcandidate]
    exact and_congr_right fun _ => Counts.forall_count_pool h.keys h.gold h.candidate
  · obtain ⟨cs', hcs', hperm'⟩ := List.perm_comp_forall₂ hperm hcs
    refine ⟨_, run_eq_ok_iff.mpr ⟨cs', hcs', rfl⟩, fun hlength => ?_⟩
    rw [foldl_add_eq (h.perm hperm'.symm)]
    refine (summary_pooled_perm hperm'.symm h fun c hc => ?_).symm
    obtain ⟨p, hp, hcp⟩ := hof c hc
    cases hfailed : c.failed with
    | true => exact hcp.length_goldTags_le hfailed
    | false =>
      obtain ⟨hgoldTags, htags⟩ := hcp.length_goldTags hfailed
      have hnot : ¬p.IsFailure := fun hfailure => by simp [hcp.failed.mpr hfailure] at hfailed
      rw [hgoldTags, htags, (hlength p hp).resolve_left hnot]

/-- A tree over two words, with a constituent over the first one. -/
def nestedPhrase : Tree :=
  .node "ROOT" [.node "S" [.node "NP" [.node "N" [.ofWord "a"]], .node "V" [.ofWord "b"]]]

/-- A tree over the same words, without this constituent. -/
def flatPhrase : Tree := .node "ROOT" [.node "S" [.node "N" [.ofWord "a"], .node "V" [.ofWord "b"]]]

/-- A candidate without a difference, a failure, and a candidate that misses a constituent. -/
def threePairs : List TreePair :=
  [⟨.number 1, nestedPhrase, nestedPhrase⟩, ⟨.number 2, flatPhrase, .node "ROOT" [.ofWord "JUNK"]⟩,
    ⟨.name "c", nestedPhrase, flatPhrase⟩]

theorem run_pools_threePairs :
    ∃ e, run ["ROOT"] threePairs = .ok e ∧
      Measure.recallOf Ratio e.gold e.candidate = .ok (Measure.ratioOf 3 5) ∧ e.exact = 1 ∧
      ∀ pairs', pairs'.Perm threePairs → ∃ e', run ["ROOT"] pairs' = .ok e' ∧ e'.summary = e.summary := by
  obtain ⟨e, he, hsize, hoverlap, hexact⟩ : ∃ e, run ["ROOT"] threePairs = .ok e ∧ e.gold.size = 5 ∧
      e.gold.overlap e.candidate = 3 ∧ e.exact = 1 :=
    ⟨_, rfl, rfl, by rw [Counts.overlap_eq]; rfl, rfl⟩
  obtain ⟨cs, -, -, -, -, hrecall, -, -, -, -, hperm⟩ := run_pools (by decide) he
  refine ⟨e, he, by rw [hrecall, hsize, hoverlap], hexact, fun pairs' h => ?_⟩
  obtain ⟨e', he', hsummary⟩ := hperm pairs' h
  refine ⟨e', he', hsummary ?_⟩
  simp [threePairs, nestedPhrase, flatPhrase, TreePair.IsFailure, Tree.tagged, Tree.subtrees_eq, Tree.preorder,
    Tree.preorderAll, Tree.isPreterminal, Comparison.failureWord]

end Evaluation

end Constituency
