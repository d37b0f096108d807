import Constituency.Proofs.Chart.Candidates
import Constituency.Proofs.Chart.Filling
import Constituency.Proofs.Except

/-!
# Finished charts

A lexicon that answers for every word and tag leads to a chart (`parse_eq_fill`), all of whose cells
are filled (`isFinished_fill`). In this chart the item of every symbol holds the first one of the best
candidates: in the binary layer of what rules derive from the two parts of a span, in the unary layer
of what the closure derives from the layer below.
-/
namespace Constituency.Chart

variable {σ : Type} [Score σ]

/-- A lexicon that gives every word of a sentence and every label a score, or none. -/
def Answers {ε : Type} (v : Vocabulary) (lexicon : String → String → Except ε (Option σ))
    (sentence : List String) (scores : String → String → Option σ) : Prop :=
  ∀ w ∈ sentence, ∀ tag ∈ v.labels.toList, lexicon w tag = .ok (scores w tag)

/-- The scores of all tags of each word. -/
def tagTable (v : Vocabulary) (scores : String → String → Option σ) (sentence : List String) :
    List (List σ) :=
  sentence.map fun w => v.labels.toList.map fun tag => tagScore (scores w tag)

/-- The scores of the tags of a word, before the closure is applied. -/
def seeds (v : Vocabulary) (scores : String → String → Option σ) (sentence : List String) (i : Nat) :
    Layer σ Symbol :=
  tagLayer ((tagTable v scores sentence).getD i [])

theorem parse_eq_fill {ε : Type} {g : Grammar σ} {lexicon : String → String → Except ε (Option σ)}
    {sentence : List String} {scores : String → String → Option σ}
    (h : Answers g.vocabulary lexicon sentence scores) (closure : Closure σ) (root : String) :
    parse g closure lexicon sentence root =
      .ok (fill g closure sentence root (tagTable g.vocabulary scores sentence)) := by
  have htags : tagScores g.vocabulary lexicon sentence =
      .ok (tagTable g.vocabulary scores sentence) := by
    refine mapM_eq_ok fun w hw => mapM_eq_ok fun tag htag => ?_
    rw [h w hw tag htag]
    rfl
  rw [parse, htags]
  rfl

section Seeds

variable {v : Vocabulary} {scores : String → String → Option σ} {sentence : List String} {i : Nat}

theorem size_seeds (hi : i < sentence.length) : (seeds v scores sentence i).size = v.size := by
  simp [seeds, tagTable, tagLayer, hi, Vocabulary.size]

theorem item_seeds {w : String} (hw : sentence[i]? = some w) (x : Nat) :
    (seeds v scores sentence i).item x =
      ⟨(v.labels[x]?.map fun tag => tagScore (scores w tag)).getD Score.bottom, none⟩ := by
  have hrow : (tagTable v scores sentence).getD i [] =
      v.labels.toList.map fun tag => tagScore (scores w tag) := by
    simp [tagTable, hw]
  unfold seeds tagLayer Layer.item
  rw [hrow, Array.getD_eq_getD_getElem?]
  cases hx : v.labels[x]? <;> simp [hx]

/-- The score of a seed is that of a tag in the lexicon. -/
theorem tag_of_seed (hi : i < sentence.length) {x : Nat}
    (hs : ((seeds v scores sentence i).item x).score ≠ Score.bottom) :
    ∃ w tag, sentence[i]? = some w ∧ v.labels[x]? = some tag ∧
      scores w tag = some ((seeds v scores sentence i).item x).score ∧
      Score.isFinite ((seeds v scores sentence i).item x).score = true := by
  obtain ⟨w, hw⟩ : ∃ w, sentence[i]? = some w := ⟨_, List.getElem?_eq_getElem hi⟩
  rw [item_seeds hw] at hs ⊢
  cases htag : v.labels[x]? with
  | none => simp [htag] at hs
  | some tag =>
    rw [htag] at hs
    simp only [Option.map_some, Option.getD_some] at hs ⊢
    cases hscore : scores w tag with
    | none => simp [hscore, tagScore] at hs
    | some s =>
      rw [hscore, tagScore] at hs
      simp only [tagScore]
      split_ifs at hs ⊢ with hfinite
      · exact ⟨w, tag, hw, rfl, hscore, hfinite⟩
      · exact absurd rfl hs

end Seeds

/-- A chart of a sentence whose cells have all been filled. -/
structure IsFinished (g : Grammar σ) (closure : Closure σ) (scores : String → String → Option σ)
    (sentence : List String) (root : String) (c : Chart σ) : Prop where
  grammar_eq : c.grammar = g
  closure_eq : c.closure = closure
  sentence_eq : c.sentence = sentence
  root_eq : c.root = root
  word : ∀ i < sentence.length, c.cell i (i + 1) =
    ⟨applyClosure closure g.numSymbols ((seeds g.vocabulary scores sentence i).score ·)
      (seeds g.vocabulary scores sentence i), Layer.empty g.numSymbols⟩
  span : ∀ i j, i + 1 < j → j ≤ sentence.length → c.cell i j = c.spanCell i j
  outside : ∀ i j, j ≤ i → j ≤ sentence.length → c.cell i j = Cell.empty g.numSymbols

theorem isSquare_empty (g : Grammar σ) (closure : Closure σ) (sentence : List String)
    (root : String) : (empty g closure sentence root).IsSquare := by
  simp [IsSquare, empty, length]

theorem cell_empty (g : Grammar σ) (closure : Closure σ) (sentence : List String) (root : String)
    (i j : Nat) : (empty g closure sentence root).cell i j = Cell.empty g.numSymbols := by
  unfold cell empty
  rw [Array.getD_eq_getD_getElem?, Array.getElem?_replicate]
  split_ifs <;> rfl

theorem isFinished_fill (g : Grammar σ) (closure : Closure σ) (scores : String → String → Option σ)
    (sentence : List String) (root : String) :
    IsFinished g closure scores sentence root
      (fill g closure sentence root (tagTable g.vocabulary scores sentence)) := by
  have hsame := sameInput_foldl (tagTable g.vocabulary scores sentence) (spans sentence.length)
    (empty g closure sentence root)
  have hcell : ∀ s ∈ spans sentence.length,
      (fill g closure sentence root (tagTable g.vocabulary scores sentence)).cell s.1 s.2 =
        content (tagTable g.vocabulary scores sentence)
          (fill g closure sentence root (tagTable g.vocabulary scores sentence)) s :=
    fun s hs => cell_foldl_fillSpan _ _ _ (isSquare_empty g closure sentence root)
      (fun t ht => mem_spans.mp ht) (pairwise_spans _) hs
  refine ⟨hsame.grammar, hsame.closure, hsame.sentence, hsame.root, fun i hi => ?_,
    fun i j hij hj => ?_, fun i j hij hj => ?_⟩
  · rw [hcell (i, i + 1) (mem_spans.mpr ⟨Nat.lt_succ_self i, hi⟩), content, if_pos rfl, wordCell]
    rw [show (fill g closure sentence root _).grammar = g from hsame.grammar,
      show (fill g closure sentence root _).closure = closure from hsame.closure]
    rfl
  · rw [hcell (i, j) (mem_spans.mpr ⟨by simp only; omega, hj⟩), content, if_neg (by simp only; omega)]
  · rw [fill, cell_foldl_of_notMem, cell_empty]
    · exact fun s hs => (mem_spans.mp hs).2
    · exact hj
    · rw [mem_spans]
      simp only
      omega

namespace IsFinished

variable [OrderedScore σ] {g : Grammar σ} {closure : Closure σ}
  {scores : String → String → Option σ} {sentence : List String} {root : String} {c : Chart σ}
  {i j x : Nat}

omit [OrderedScore σ] in
theorem length_eq (h : IsFinished g closure scores sentence root c) : c.length = sentence.length := by
  rw [length, h.sentence_eq]

omit [OrderedScore σ] in
theorem rootSymbol?_eq (h : IsFinished g closure scores sentence root c) :
    c.rootSymbol? = (g.vocabulary.find? root).map Int.ofNat := by
  rw [rootSymbol?, h.grammar_eq, h.root_eq]

/-- In the unary layer over a word the closure has been applied to the scores of the tags. -/
theorem unary_word (h : IsFinished g closure scores sentence root c)
    (hcl : closure.IsProper g.numSymbols) (hi : i < sentence.length) (hx : x < g.numSymbols) :
    ((seeds g.vocabulary scores sentence i).item x).IsFirstBest
      ((List.range g.numSymbols).map fun child =>
        chainCandidate closure ((seeds g.vocabulary scores sentence i).score ·) child x)
      ((c.cell i (i + 1)).unary.item x) := by
  rw [h.word i hi, applyClosure_eq hcl, ← filter_chainCandidates closure _ hx]
  exact Layer.isFirstBest_foldl_relax _ _ (by rwa [size_seeds hi])

omit [OrderedScore σ] in
/-- In the binary layer over a word there is nothing. -/
theorem binary_word (h : IsFinished g closure scores sentence root c) (hi : i < sentence.length) :
    (c.cell i (i + 1)).binary.item x = ⟨Score.bottom, none⟩ := by
  rw [h.word i hi, Layer.item_empty]

/-- In the unary layer over several words the closure has been applied to the binary layer. -/
theorem unary_span (h : IsFinished g closure scores sentence root c)
    (hcl : closure.IsProper g.numSymbols) (hij : i + 1 < j) (hj : j ≤ sentence.length)
    (hx : x < g.numSymbols) :
    Item.IsFirstBest ⟨Score.bottom, none⟩
      ((List.range g.numSymbols).map fun child =>
        chainCandidate closure ((c.cell i j).binary.score ·) child x)
      ((c.cell i j).unary.item x) := by
  rw [h.span i j hij hj, spanCell, h.grammar_eq, h.closure_eq, applyClosure_eq hcl,
    ← filter_chainCandidates closure _ hx, ← Layer.item_empty g.numSymbols x]
  exact Layer.isFirstBest_foldl_relax _ _ (by rwa [Layer.size_empty])

/-- In the binary layer over several words is what rules derive from the two parts. -/
theorem binary_span (h : IsFinished g closure scores sentence root c) (hg : g.IsProper)
    (hij : i + 1 < j) (hj : j ≤ sentence.length) (hx : x < g.numSymbols) :
    Item.IsFirstBest ⟨Score.bottom, none⟩
      ((c.binaryCandidates i j).filter fun d => d.symbol.toNat = x)
      ((c.cell i j).binary.item x) := by
  have hc : c.grammar.IsProper := h.grammar_eq ▸ hg
  rw [h.span i j hij hj, spanCell, binaryLayer_eq hc, h.grammar_eq, ← Layer.item_empty g.numSymbols x]
  exact Layer.isFirstBest_foldl_relax _ _ (by rwa [Layer.size_empty])

omit [OrderedScore σ] in
/-- The parents of rules are no negative numbers. -/
theorem filter_binaryCandidates (h : IsFinished g closure scores sentence root c)
    (hg : g.IsProper) (i j x : Nat) :
    ((c.binaryCandidates i j).filter fun d => d.symbol = (x : Symbol)) =
      (c.binaryCandidates i j).filter fun d => d.symbol.toNat = x := by
  have hc : c.grammar.IsProper := h.grammar_eq ▸ hg
  refine List.filter_congr fun d hd => ?_
  obtain ⟨r, hr, split, -, -, rfl⟩ := (mem_binaryCandidates hc).mp hd
  obtain ⟨⟨h₀, -⟩, -⟩ := hc.binary r hr
  obtain ⟨k, hk⟩ := Int.eq_ofNat_of_zero_le h₀
  simp [hk]

end IsFinished

/-! ### A tiny grammar -/

/-- A grammar with a binary rule and a unary one. -/
def tinyGrammar : Grammar ExactScore where
  vocabulary := ⟨#["S", "A", "B"]⟩
  binary := [⟨0, 1, 1, .value (-1)⟩]
  unary := [⟨1, 2, .value (-2)⟩]
  groups := Grammar.groupByLeft [⟨0, 1, 1, .value (-1)⟩]

/-- A lexicon with one word and one tag. -/
def tinyScores (w tag : String) : Option ExactScore :=
  if w = "b" ∧ tag = "B" then some (.value 0) else none

/-- The lexicon never gives up. -/
def tinyLexicon (w tag : String) : Except Empty (Option ExactScore) := .ok (tinyScores w tag)

theorem answers_tinyLexicon (sentence : List String) :
    Answers tinyGrammar.vocabulary tinyLexicon sentence tinyScores :=
  fun _ _ _ _ => rfl

theorem ofRules?_tinyGrammar :
    Grammar.ofRules? tinyGrammar.vocabulary tinyGrammar.binary tinyGrammar.unary =
      .ok tinyGrammar := rfl

theorem noPositiveCycle_tinyGrammar : NoPositiveCycle tinyGrammar.unary :=
  noPositiveCycle_of_nonpos (by decide)

theorem exists_tinyClosure :
    ∃ closure, Closure.ofRules? tinyGrammar.numSymbols tinyGrammar.unary = .ok closure :=
  Closure.exists_ofRules? (Grammar.isProper_of_ofRules? ofRules?_tinyGrammar).2.unary (by decide)
    noPositiveCycle_tinyGrammar.proper (by decide)

end Constituency.Chart
