import Constituency.Eval.Comparison
import Constituency.Proofs.Parser.Faithfulness
import Constituency.Proofs.Tree.Histories
import Constituency.Proofs.Treebank

/-!
# Parsed corpora

With labels that can stand in bracket notation, whatever a trained parser gives for a sentence can be written
and read back: the labels of a derivation are those of the trees that were trained on, and its words are
those of the sentence (`IsTrained.exists_isAnswer`). So the text of a run is the treebank of its results
(`written_run`), and each of them can be compared with a tree over the words of its sentence, where exactly
the trees of failures are told apart (`IsAnswer.exists_comparison`).
-/
namespace Constituency.Parser

variable {σ ρ : Type} [Score σ] [Probability ρ] [LogScale σ ρ]

/-- What a parser gives for words: a tree over these words, or the tree of a failure. -/
structure IsAnswer (words : List Word) (r : ParseResult σ) : Prop where
  node : r.tree.isLeaf = false
  writable : r.tree.IsWritable
  recoverable : r.tree.HasRecoverableWords
  leaves : r.tree.leaves = if r.failed then [Comparison.failureWord] else words

/-! ### Results -/

theorem isWritable_failureTree {root : String} (h : Label.IsName root) :
    (Chart.failureTree root).IsWritable := by
  refine Tree.isWritable_node.mpr ⟨h.2, fun hempty => absurd hempty h.1, ?_⟩
  exact List.forall_mem_singleton.mpr (Tree.isWritable_leaf.mpr ⟨_, rfl, by decide⟩)

theorem label?_of_production? {u : Tree} {q : Production} (h : u.production? = some q) :
    u.label? = q.labels.head? := by
  cases u with
  | leaf w => exact absurd h (by simp [Tree.production?])
  | node l cs =>
    rcases Tree.production?_eq_some h with ⟨w, -, rfl⟩ | ⟨m, ds, -, rfl⟩ | ⟨m, ds, n, es, -, rfl⟩ <;> rfl

namespace IsTrained

variable {settings : Settings} {trees : List Tree} {p : Parser σ} (h : p.IsTrained settings trees)
  {sentence : List String} [GroundedScore σ]

include h

/-- The labels of a derivation are labels of the trees that were trained on. -/
theorem hasNames_tree (hlabels : ∀ t ∈ trees, t.HasNames) {x : Symbol} {i j : Nat}
    (d : Derivation p.grammar p.scores sentence x i j) : d.tree.HasNames := by
  intro u hu l hl
  obtain ⟨q, hq, hproduction⟩ := h.exists_production (licenses_of_mem_nodes d u hu)
  obtain ⟨v, hv, hsame⟩ := List.mem_filterMap.mp hq
  obtain ⟨a, ha, hva⟩ := List.mem_flatMap.mp hv
  have hcountable := h.countable a ha
  obtain ⟨t, ht, rfl⟩ := List.mem_map.mp ha
  have hnames := Tree.hasNames_annotate_of_countable (hlabels t (List.mem_filter.mp ht).1) hcountable
  refine hnames v hva l ?_
  rw [label?_of_production? hsame, ← label?_of_production? hproduction, hl]

/-- A sentence whose words can be written has an answer. -/
theorem exists_isAnswer (hthreshold : 0 < settings.rareThreshold) (hlabels : ∀ t ∈ trees, t.HasNames)
    (hroot : Label.IsName settings.root)
    (hwords : ∀ w ∈ sentence, Bracket.IsWord w ∧ Bracket.IsRecoverable w) :
    ∃ r, p.parse sentence = .ok r ∧ IsAnswer (sentence.map some) r := by
  obtain ⟨c, r, -, hr, -, -, hresult⟩ := h.exists_parse (h.answers (Or.inl hthreshold))
  refine ⟨r, hr, ?_⟩
  rcases hresult with ⟨hfailed, htree⟩ | ⟨hok, x, d, -, -, -, htree⟩
  · refine ⟨?_, ?_, ?_, ?_⟩
    · rw [htree]
      rfl
    · rw [htree]
      exact isWritable_failureTree hroot
    · rw [htree]
      exact List.forall_mem_singleton.mpr (by decide)
    · rw [htree, hfailed]
      rfl
  · have hleaves : r.tree.leaves = sentence.map some := by
      rw [htree, Tree.leaves_unannotate, d.leaves_tree, List.take_length, List.drop_zero]
    have hword : ∀ w ∈ r.tree.leaves, ∃ s ∈ sentence, w = some s := by
      rw [hleaves, List.forall_mem_map]
      exact fun s hs => ⟨s, hs, rfl⟩
    refine ⟨?_, ?_, ?_, ?_⟩
    · obtain ⟨cs, hd⟩ := Tree.exists_of_label? d.label?_tree
      rw [htree, hd]
      rfl
    · rw [htree] at hword ⊢
      refine (h.hasNames_tree hlabels d).unannotate.isWritable fun w hw => ?_
      obtain ⟨s, hs, rfl⟩ := hword w hw
      exact ⟨s, rfl, (hwords s hs).1⟩
    · intro w hw s hs
      obtain ⟨s', hs', rfl⟩ := hword w hw
      obtain rfl := Option.some.inj hs
      exact (hwords _ hs').2
    · rw [hleaves, hok]
      rfl

/-- So has every list of such sentences. -/
theorem exists_isAnswers (hthreshold : 0 < settings.rareThreshold)
    (hlabels : ∀ t ∈ trees, t.HasNames) (hroot : Label.IsName settings.root)
    {sentences : List (List String)}
    (hwords : ∀ s ∈ sentences, ∀ w ∈ s, Bracket.IsWord w ∧ Bracket.IsRecoverable w) :
    ∃ results, sentences.mapM p.parse = .ok results ∧
      List.Forall₂ (fun s r => IsAnswer (s.map some) r) sentences results := by
  simp only [mapM_eq_ok_iff]
  induction sentences with
  | nil => exact ⟨[], .nil, .nil⟩
  | cons s sentences ih =>
    rw [List.forall_mem_cons] at hwords
    obtain ⟨r, hr, hanswer⟩ := h.exists_isAnswer hthreshold hlabels hroot hwords.1
    obtain ⟨results, hresults, hanswers⟩ := ih hwords.2
    exact ⟨r :: results, .cons hr hresults, .cons hanswer hanswers⟩

end IsTrained

/-! ### Runs -/

/-- Whatever can be parsed and written is an entry of a run. -/
theorem exists_entry {p : Parser σ} {sentence : List String} {r : ParseResult σ} {text : String}
    (hr : p.parse sentence = .ok r) (htext : r.tree.writeAs p.settings.format = .ok text) (number : Nat) :
    ∃ e, p.entry number sentence = .ok e ∧ e.result = r ∧ e.output = text := by
  rw [parse] at hr
  cases hchart : p.chart sentence with
  | error e => simp [hchart, bind, Except.bind] at hr
  | ok c =>
    have hresult : resultOf c = .ok r := by simpa [hchart, bind, Except.bind] using hr
    simp [entry, hchart, hresult, htext, bind, Except.bind, Except.mapError, pure, Except.pure]

/-- A run over sentences that can be parsed, in a format for whole trees, writes the treebank of the
results. -/
theorem written_runFrom {p : Parser σ}
    (hformat : p.settings.format = "bracket" ∨ p.settings.format = "pprint")
    {sentences : List (List String)} {results : List (ParseResult σ)}
    (hresults : List.Forall₂ (fun s r => p.parse s = .ok r) sentences results)
    (hnode : ∀ r ∈ results, r.tree.isLeaf = false) (number : Nat) :
    (p.runFrom number sentences).error = none ∧
      (p.runFrom number sentences).entries.map (·.result) = results ∧
      Bracket.Written (results.map (·.tree)) (p.runFrom number sentences).output.toList := by
  induction hresults generalizing number with
  | nil => exact ⟨rfl, rfl, .nil (List.forall_mem_nil _)⟩
  | @cons s r sentences results hr _ ih =>
    rw [List.forall_mem_cons] at hnode
    obtain ⟨text, htext, hfront⟩ := Bracket.exists_writeAs hnode.1 hformat
    obtain ⟨e, he, rfl, rfl⟩ := exists_entry hr htext number
    obtain ⟨herror, hentries, hwritten⟩ := ih hnode.2 (number + 1)
    have hrun : p.runFrom number (s :: sentences) =
        ⟨e :: (p.runFrom (number + 1) sentences).entries, (p.runFrom (number + 1) sentences).error⟩ := by
      rw [runFrom, he]
    refine ⟨by rw [hrun, herror], by rw [hrun, List.map_cons, hentries], ?_⟩
    simp only [hrun, CorpusRun.output, List.map_cons, String.join_cons, String.toList_append]
    exact hfront hwritten

/-! ### Comparing the results -/

omit [Score σ] in
theorem exists_isAnswer_of_mem {sentences : List (List String)} {results : List (ParseResult σ)}
    (h : List.Forall₂ (fun s r => IsAnswer (s.map some) r) sentences results) :
    ∀ r ∈ results, ∃ words, IsAnswer words r := by
  induction h with
  | nil => exact List.forall_mem_nil _
  | cons hanswer _ ih => exact List.forall_mem_cons.mpr ⟨⟨_, hanswer⟩, ih⟩

omit [Score σ] in
/-- A failure is known by its words. -/
theorem IsAnswer.failed_iff {words : List Word} {r : ParseResult σ} (h : IsAnswer words r)
    (hwords : words ≠ [Comparison.failureWord]) :
    r.failed = true ↔ r.tree.leaves = [Comparison.failureWord] := by
  rw [h.leaves]
  cases r.failed with
  | true => simp
  | false => simpa using hwords

omit [Score σ] in
/-- An answer can be compared with a tree over the same words. -/
theorem IsAnswer.exists_comparison {gold : Tree} {r : ParseResult σ} (h : IsAnswer gold.leaves r)
    (hwords : gold.leaves ≠ [Comparison.failureWord]) (key : SentenceKey) (skip : List String) :
    ∃ c, Comparison.ofTrees key gold r.tree skip = .ok c ∧ c.failed = r.failed := by
  have hfailed := h.failed_iff hwords
  unfold Comparison.ofTrees
  cases hr : r.failed with
  | true =>
    rw [hr] at hfailed
    rw [if_pos ⟨hfailed.mp rfl, hwords⟩]
    exact ⟨_, rfl, rfl⟩
  | false =>
    rw [hr] at hfailed
    have hsame : r.tree.leaves = gold.leaves := by
      rw [h.leaves, hr]
      rfl
    rw [if_neg fun hboth => absurd (hfailed.mpr hboth.1) (by decide), if_pos hsame]
    exact ⟨_, rfl, rfl⟩

omit [Score σ] in
theorem exists_comparisons {gold : List Tree} {results : List (ParseResult σ)}
    (h : List.Forall₂ (fun g r => IsAnswer g.leaves r) gold results)
    (hwords : ∀ g ∈ gold, g.leaves ≠ [Comparison.failureWord]) (skip : List String) :
    ∃ comparisons, (Treebank.numbered (gold.zip (results.map (·.tree)))).mapM
        (fun x => Comparison.ofTrees (.number x.1) x.2.1 x.2.2 skip) = .ok comparisons ∧
      comparisons.map (·.failed) = results.map (·.failed) := by
  have hfrom (k : Nat) : ∃ comparisons,
      ((List.range' k (gold.zip (results.map (·.tree))).length).zip (gold.zip (results.map (·.tree)))).mapM
          (fun x => Comparison.ofTrees (.number x.1) x.2.1 x.2.2 skip) = .ok comparisons ∧
        comparisons.map (·.failed) = results.map (·.failed) := by
    induction h generalizing k with
    | nil => exact ⟨[], rfl, rfl⟩
    | cons hanswer _ ih =>
      rw [List.forall_mem_cons] at hwords
      obtain ⟨c, hc, hfailed⟩ := hanswer.exists_comparison hwords.1 (.number k) skip
      obtain ⟨cs, hcs, hrest⟩ := ih hwords.2 (k + 1)
      refine ⟨c :: cs, ?_, by rw [List.map_cons, List.map_cons, hfailed, hrest]⟩
      rw [List.map_cons, List.zip_cons_cons, List.length_cons, List.range'_succ, List.zip_cons_cons,
        List.mapM_cons, hc, hcs]
      rfl
  exact hfrom 1

/-- Let the labels of the trees that a parser was trained on and its root label be such that they can stand
in bracket notation, let the words of sentences be such that they come back from it, and let no sentence be
the word of a failure alone. Then what a run over the sentences of gold trees writes is read back as its
results, one for each sentence; each of them can be compared with the gold tree; and the comparisons that are
failures are those of the sentences that are counted as having no parse. -/
theorem exists_comparisons_run [GroundedScore σ] {settings : Settings} {trees : List Tree} {p : Parser σ}
    (hp : train settings trees = .ok p) (hthreshold : 1 ≤ settings.rareThreshold)
    (hlabels : ∀ t ∈ trees, t.HasNames) (hroot : Label.IsName settings.root)
    (hformat : settings.format = "bracket" ∨ settings.format = "pprint") {gold : List Tree}
    {sentences : List (List String)} (hgold : gold.map Tree.leaves = sentences.map (·.map some))
    (hwords : ∀ s ∈ sentences, ∀ w ∈ s, Bracket.IsWord w ∧ Bracket.IsRecoverable w)
    (hfailure : ∀ s ∈ sentences, s ≠ [Chart.failureWord]) (skip : List String) :
    ∃ results candidates comparisons, sentences.mapM p.parse = .ok results ∧
      (p.run sentences).error = none ∧ (p.run sentences).entries.map (·.result) = results ∧
      Treebank.ofText ⟨none, false⟩ (p.run sentences).output = ⟨candidates, none⟩ ∧
      candidates = results.map (·.tree) ∧ candidates.length = gold.length ∧
      (Treebank.numbered (gold.zip candidates)).mapM
        (fun x => Comparison.ofTrees (.number x.1) x.2.1 x.2.2 skip) = .ok comparisons ∧
      comparisons.map (·.failed) = results.map (·.failed) ∧
      (p.run sentences).unparsed = comparisons.countP (·.failed) := by
  have h := isTrained_of_train hp
  obtain ⟨results, hresults, hanswers⟩ := h.exists_isAnswers hthreshold hlabels hroot hwords
  have hgolds : List.Forall₂ (fun g r => IsAnswer g.leaves r) gold results := by
    rw [← List.forall₂_map_left_iff, hgold, List.forall₂_map_left_iff]
    exact hanswers
  have hnoFailure : ∀ g ∈ gold, g.leaves ≠ [Comparison.failureWord] := by
    intro g hg hleaves
    obtain ⟨s, hs, hsg⟩ := List.mem_map.mp (hgold ▸ List.mem_map_of_mem hg)
    refine hfailure s hs (List.map_injective_iff.mpr (Option.some_injective _) ?_)
    rw [hsg, hleaves]
    rfl
  have hall : ∀ r ∈ results, r.tree.isLeaf = false ∧ r.tree.IsWritable ∧ r.tree.HasRecoverableWords := by
    intro r hr
    obtain ⟨words, hanswer⟩ := exists_isAnswer_of_mem hanswers r hr
    exact ⟨hanswer.node, hanswer.writable, hanswer.recoverable⟩
  rw [← h.settings_eq] at hformat
  obtain ⟨herror, hentries, hwritten⟩ :=
    written_runFrom hformat (mapM_eq_ok_iff.mp hresults) (fun r hr => (hall r hr).1) 1
  obtain ⟨comparisons, hcomparisons, hfailed⟩ := exists_comparisons hgolds hnoFailure skip
  refine ⟨results, results.map (·.tree), comparisons, hresults, herror, hentries, ?_, rfl, ?_, hcomparisons,
    hfailed, ?_⟩
  · refine Treebank.ofText_of_written hwritten ?_ ?_ ?_ <;> rw [List.forall_mem_map]
    · exact fun r hr => (hall r hr).1
    · exact fun r hr => (hall r hr).2.1
    · exact fun r hr => (hall r hr).2.2
  · rw [List.length_map, hgolds.length_eq]
  · have hcount : (p.run sentences).unparsed =
        ((p.run sentences).entries.map (·.result)).countP (·.failed) := by
      rw [CorpusRun.unparsed, List.countP_map]
      rfl
    have hentries' : (p.run sentences).entries.map (·.result) = results := hentries
    calc (p.run sentences).unparsed = (results.map (·.failed)).countP id := by
          rw [hcount, hentries', List.countP_map]
          rfl
      _ = comparisons.countP (·.failed) := by
          rw [← hfailed, List.countP_map]
          rfl

/-- Trees over a word that was trained on, over words with brackets, and over no words. -/
def goldTrees : List Tree :=
  [oneWord, .node "S" [.node "X" [.ofWord "("], .ofWord "b)"], .node "E" []]

/-- The sentences of these trees. -/
def goldSentences : List (List String) := [["a"], ["(", "b)"], []]

theorem hasNames_oneWord : ∀ t ∈ [oneWord], t.HasNames := by
  rw [List.forall_mem_singleton, oneWord, Tree.hasNames_node, List.forall_mem_singleton]
  exact ⟨by decide, Tree.hasNames_leaf _⟩

theorem exists_comparisons_run_oneWord : ∃ p : Parser Float,
    train Settings.default [oneWord] = .ok p ∧ 1 ≤ Settings.default.rareThreshold ∧
      (∀ t ∈ [oneWord], t.HasNames) ∧ Label.IsName Settings.default.root ∧
      (Settings.default.format = "bracket" ∨ Settings.default.format = "pprint") ∧
      goldTrees.map Tree.leaves = goldSentences.map (·.map some) ∧
      (∀ s ∈ goldSentences, ∀ w ∈ s, Bracket.IsWord w ∧ Bracket.IsRecoverable w) ∧
      (∀ s ∈ goldSentences, s ≠ [Chart.failureWord]) ∧
      ∃ results candidates comparisons, goldSentences.mapM p.parse = .ok results ∧
        Treebank.ofText ⟨none, false⟩ (p.run goldSentences).output = ⟨candidates, none⟩ ∧
        candidates = results.map (·.tree) ∧
        (Treebank.numbered (goldTrees.zip candidates)).mapM
          (fun x => Comparison.ofTrees (.number x.1) x.2.1 x.2.2 ["ROOT"]) = .ok comparisons ∧
        (p.run goldSentences).unparsed = comparisons.countP (·.failed) := by
  obtain ⟨p, hp⟩ := exists_train_oneWord 10
  have hroot : Label.IsName Settings.default.root := by decide
  have hgold : goldTrees.map Tree.leaves = goldSentences.map (·.map some) := by decide
  have hwords : ∀ s ∈ goldSentences, ∀ w ∈ s, Bracket.IsWord w ∧ Bracket.IsRecoverable w := by decide
  have hfailure : ∀ s ∈ goldSentences, s ≠ [Chart.failureWord] := by decide
  obtain ⟨results, candidates, comparisons, hresults, -, -, hread, hcandidates, -, hcompared, -, hcount⟩ :=
    exists_comparisons_run hp (by decide) hasNames_oneWord hroot (Or.inl rfl) hgold hwords hfailure ["ROOT"]
  exact ⟨p, hp, by decide, hasNames_oneWord, hroot, Or.inl rfl, hgold, hwords, hfailure, results, candidates,
    comparisons, hresults, hread, hcandidates, hcompared, hcount⟩

end Constituency.Parser
