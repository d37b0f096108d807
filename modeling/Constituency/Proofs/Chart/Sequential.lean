import Constituency.Proofs.Chart.Finished

/-!
# Parsing item by item

The sequential parser goes through all tags, rules and chains one by one and stores a score only when
it is strictly greater than the one that stands in its place. The parser, which takes many of them at
once, ends up with the same chart.
-/
namespace Constituency.Chart

namespace Sequential

variable {σ : Type} [Score σ]

/-- Store a score in the binary layer over a span, if it is strictly greater than the stored one. -/
def storeBinary (start stop : Nat) (c : Chart σ) (new : Candidate σ Split) : Chart σ :=
  let cell := c.cell start stop
  if Score.lt (cell.binary.score new.symbol) new.score then
    c.setCell start stop ⟨cell.unary, cell.binary.assign new⟩
  else c

/-- Store a score in the unary layer over a span, if it is strictly greater than the stored one. -/
def storeUnary (start stop : Nat) (c : Chart σ) (new : Candidate σ Symbol) : Chart σ :=
  let cell := c.cell start stop
  if Score.lt (cell.unary.score new.symbol) new.score then
    c.setCell start stop ⟨cell.unary.assign new, cell.binary⟩
  else c

/-- Try a rule over a split. -/
def tryRule (start split stop : Nat) (c : Chart σ) (r : BinaryRule σ) : Chart σ :=
  let left := (c.cell start split).unary.score r.left
  let right := (c.cell split stop).unary.score r.right
  storeBinary start stop c ⟨r.parent, Score.add (Score.add r.score left) right,
    ⟨split, r.left, r.right, r.parent⟩⟩

/-- Try the rules of a left child over a split, if it has been found. -/
def tryLeft (start split stop : Nat) (c : Chart σ) (left : Nat) : Chart σ :=
  if Score.isFinite ((c.cell start split).unary.score left) then
    (Grammar.rulesOf c.grammar.binary left).foldl (tryRule start split stop) c
  else c

/-- Try all left children over a split. -/
def trySplit (start stop : Nat) (c : Chart σ) (split : Nat) : Chart σ :=
  (List.range c.grammar.numSymbols).foldl (tryLeft start split stop) c

/-- Try all chains down to a child, if it has been found. -/
def tryChild (start stop : Nat) (source : Symbol → σ) (c : Chart σ) (child : Nat) : Chart σ :=
  if Score.isFinite (source child) then
    (List.range c.grammar.numSymbols).foldl (fun c (x : Nat) =>
      storeUnary start stop c ⟨x, Score.add (c.closure.score x child) (source child), child⟩) c
  else c

/-- Try the chains down to all children. -/
def close (start stop : Nat) (source : Symbol → σ) (c : Chart σ) : Chart σ :=
  (List.range c.grammar.numSymbols).foldl (tryChild start stop source) c

/-- Store the score of a tag of a word, if it has one. -/
def storeTag (scores : String → String → Option σ) (i : Nat) (w : String) (c : Chart σ) (x : Nat) :
    Chart σ :=
  match c.grammar.vocabulary.labels[x]?.bind (scores w) with
  | some s =>
      if Score.isFinite s then
        let cell := c.cell i (i + 1)
        c.setCell i (i + 1) ⟨cell.unary.setIfInBounds x ⟨s, none⟩, cell.binary⟩
      else c
  | none => c

/-- Parse a word: store its tags, and apply the chains to a snapshot of them. -/
def parseWord (scores : String → String → Option σ) (c : Chart σ) (i : Nat) : Chart σ :=
  match c.sentence[i]? with
  | some w =>
      let tagged := (List.range c.grammar.numSymbols).foldl (storeTag scores i w) c
      close i (i + 1) ((tagged.cell i (i + 1)).unary.score ·) tagged
  | none => c

/-- Parse a span of several words: try all splits, and apply the chains to the binary layer. -/
def parseSpan (start stop : Nat) (c : Chart σ) : Chart σ :=
  let combined := (List.range' (start + 1) (stop - start - 1)).foldl (trySplit start stop) c
  close start stop ((combined.cell start stop).binary.score ·) combined

/-- Parse a sentence: all words, then all longer spans from short to long and from left to right. -/
def parse (g : Grammar σ) (closure : Closure σ) (scores : String → String → Option σ)
    (sentence : List String) (root : String) : Chart σ :=
  let words := (List.range sentence.length).foldl (parseWord scores)
    (empty g closure sentence root)
  (List.range' 2 (sentence.length - 1)).foldl (fun c width =>
    (List.range (sentence.length + 1 - width)).foldl (fun c start =>
      parseSpan start (start + width) c) c) words

section Store

variable {c : Chart σ} {i j : Nat}

theorem storeBinary_setCell (hc : c.IsSquare) (hi : i ≤ c.length) (hj : j ≤ c.length)
    (unary : Layer σ Symbol) (l : Layer σ Split) (new : Candidate σ Split) :
    storeBinary i j (c.setCell i j ⟨unary, l⟩) new = c.setCell i j ⟨unary, l.relax new⟩ := by
  unfold storeBinary
  rw [cell_setCell_self hc hi hj, Layer.relax, Layer.beats]
  dsimp only
  split_ifs
  · exact setCell_setCell
  · rfl

theorem storeUnary_setCell (hc : c.IsSquare) (hi : i ≤ c.length) (hj : j ≤ c.length)
    (l : Layer σ Symbol) (binary : Layer σ Split) (new : Candidate σ Symbol) :
    storeUnary i j (c.setCell i j ⟨l, binary⟩) new = c.setCell i j ⟨l.relax new, binary⟩ := by
  unfold storeUnary
  rw [cell_setCell_self hc hi hj, Layer.relax, Layer.beats]
  dsimp only
  split_ifs
  · exact setCell_setCell
  · rfl

omit [Score σ] in
/-- A loop whose steps change a part of one cell changes this part as the steps do. -/
theorem foldl_setCell {α τ : Type} (put : τ → Cell σ) (f : Chart σ → α → Chart σ)
    (step : τ → α → τ) (xs : List α)
    (h : ∀ t, ∀ a ∈ xs, f (c.setCell i j (put t)) a = c.setCell i j (put (step t a))) (t : τ) :
    xs.foldl f (c.setCell i j (put t)) = c.setCell i j (put (xs.foldl step t)) := by
  induction xs generalizing t with
  | nil => rfl
  | cons a xs ih =>
    rw [List.foldl_cons, h t a (by simp), ih (fun t b hb => h t b (by simp [hb]))]
    rfl

end Store

section Steps

variable [OrderedScore σ] {c : Chart σ} {i j : Nat}

theorem tryLeft_setCell (hc : c.IsSquare) (hj : j ≤ c.length) {k : Nat} (hik : i < k) (hkj : k < j)
    (unary : Layer σ Symbol) (l : Layer σ Split) (x : Nat) :
    tryLeft i k j (c.setCell i j ⟨unary, l⟩) x = c.setCell i j ⟨unary,
      (groupCandidates k (c.cell i k).unary (c.cell k j).unary
        ⟨x, Grammar.rulesOf c.grammar.binary x⟩).foldl Layer.relax l⟩ := by
  have hleft : ∀ new, (c.setCell i j new).cell i k = c.cell i k :=
    fun new => cell_setCell_ne hj (by omega) (by omega)
  have hright : ∀ new, (c.setCell i j new).cell k j = c.cell k j :=
    fun new => cell_setCell_ne hj hj (by omega)
  unfold tryLeft
  rw [hleft]
  by_cases hfound : Score.isFinite ((c.cell i k).unary.score x) = true
  · rw [if_pos hfound, groupCandidates, List.foldl_map]
    refine foldl_setCell (Cell.mk unary) _ _ _ (fun l r hr => ?_) l
    rw [tryRule, hleft, hright, storeBinary_setCell hc (by omega) hj,
      (Grammar.mem_rulesOf.mp hr).2]
  · rw [if_neg hfound, foldl_groupCandidates_of_not_isFinite hfound]

theorem trySplit_setCell (hc : c.IsSquare) (hj : j ≤ c.length) {k : Nat} (hik : i < k) (hkj : k < j)
    (unary : Layer σ Symbol) (l : Layer σ Split) :
    trySplit i j (c.setCell i j ⟨unary, l⟩) k = c.setCell i j ⟨unary,
      (splitCandidates c.grammar.binary c.grammar.numSymbols k (c.cell i k).unary
        (c.cell k j).unary).foldl Layer.relax l⟩ := by
  rw [splitCandidates, List.foldl_flatMap]
  exact foldl_setCell (Cell.mk unary) _ _ _ (fun l x _ => tryLeft_setCell hc hj hik hkj unary l x) l

theorem close_setCell (hc : c.IsSquare) (hi : i ≤ c.length) (hj : j ≤ c.length)
    (source : Symbol → σ) (l : Layer σ Symbol) (binary : Layer σ Split) :
    close i j source (c.setCell i j ⟨l, binary⟩) = c.setCell i j
      ⟨(chainCandidates c.closure c.grammar.numSymbols source).foldl Layer.relax l, binary⟩ := by
  rw [chainCandidates, List.foldl_flatMap]
  refine foldl_setCell (Cell.mk · binary) _ _ _ (fun l child _ => ?_) l
  unfold tryChild
  by_cases hfound : Score.isFinite (source child) = true
  · rw [if_pos hfound, List.foldl_map]
    refine foldl_setCell (Cell.mk · binary) _ _ _ (fun l x _ => ?_) l
    exact storeUnary_setCell hc hi hj l binary _
  · rw [if_neg hfound, foldl_chainCandidate_of_not_isFinite hfound]

/-- Over several words the cell becomes the one that the parser fills in. -/
theorem parseSpan_eq (hc : c.IsSquare) (hg : c.grammar.IsProper)
    (hcl : c.closure.IsProper c.grammar.numSymbols) (hij : i + 1 < j) (hj : j ≤ c.length)
    (hempty : c.cell i j = Cell.empty c.grammar.numSymbols) :
    parseSpan i j c = c.setCell i j (c.spanCell i j) := by
  have hi : i ≤ c.length := by omega
  have hsplits : (List.range' (i + 1) (j - i - 1)).foldl (trySplit i j) c =
      c.setCell i j ⟨Layer.empty c.grammar.numSymbols, c.binaryLayer i j⟩ := by
    have h := foldl_setCell (c := c) (i := i) (j := j) (Cell.mk (Layer.empty c.grammar.numSymbols))
      (trySplit i j) _ (List.range' (i + 1) (j - i - 1)) (fun l k hk => by
        rw [List.mem_range'_1] at hk
        exact trySplit_setCell hc hj (by omega) (by omega) _ l) (Layer.empty c.grammar.numSymbols)
    rw [binaryLayer_eq hg, binaryCandidates, List.foldl_flatMap, ← h]
    congr 1
    exact ((setCell_cell hc hi hj).symm.trans (congrArg _ hempty))
  unfold parseSpan
  rw [hsplits]
  dsimp only
  rw [close_setCell hc hi hj, cell_setCell_self hc hi hj, spanCell, applyClosure_eq hcl]

end Steps

section Tags

variable {scores : String → String → Option σ} {w : String} {i : Nat} {c : Chart σ}

/-- What is stored of a tag. -/
def putTag (v : Vocabulary) (scores : String → String → Option σ) (w : String) (l : Layer σ Symbol)
    (x : Nat) : Layer σ Symbol :=
  match v.labels[x]?.bind (scores w) with
  | some s => if Score.isFinite s then l.setIfInBounds x ⟨s, none⟩ else l
  | none => l

theorem storeTag_setCell (hc : c.IsSquare) (hi : i < c.length) (l : Layer σ Symbol)
    (binary : Layer σ Split) (x : Nat) :
    storeTag scores i w (c.setCell i (i + 1) ⟨l, binary⟩) x =
      c.setCell i (i + 1) ⟨putTag c.grammar.vocabulary scores w l x, binary⟩ := by
  have hg : (c.setCell i (i + 1) ⟨l, binary⟩).grammar = c.grammar := rfl
  unfold storeTag putTag
  rw [hg]
  cases c.grammar.vocabulary.labels[x]?.bind (scores w) with
  | none => rfl
  | some s =>
    dsimp only
    split_ifs
    · rw [cell_setCell_self hc hi.le hi, setCell_setCell]
    · rfl

theorem size_putTag (v : Vocabulary) (l : Layer σ Symbol) (x : Nat) :
    (putTag v scores w l x).size = l.size := by
  unfold putTag
  cases v.labels[x]?.bind (scores w) with
  | none => rfl
  | some s =>
    dsimp only
    split_ifs <;> simp

/-- Over an empty item the score of a tag is stored as it is. -/
theorem item_putTag {v : Vocabulary} {sentence : List String} (hw : sentence[i]? = some w)
    {l : Layer σ Symbol} {x : Nat} (hx : x < l.size) (hempty : l.item x = ⟨Score.bottom, none⟩)
    (k : Nat) : (putTag v scores w l x).item k =
      if x = k then (seeds v scores sentence i).item x else l.item k := by
  have hitem : ∀ s, Layer.item (l.setIfInBounds x ⟨s, none⟩) k =
      if x = k then ⟨s, none⟩ else l.item k := fun s => by
    unfold Layer.item
    by_cases hxk : x = k
    · subst hxk
      simp [hx]
    · simp [Array.getD_eq_getD_getElem?, Array.getElem?_setIfInBounds_ne hxk, hxk]
  have hstay : l.item k = if x = k then ⟨Score.bottom, none⟩ else l.item k := by
    split_ifs with hxk
    · rw [← hxk, hempty]
    · rfl
  rw [item_seeds hw]
  unfold putTag
  cases htag : v.labels[x]? with
  | none => simpa using hstay
  | some tag =>
    cases hs : scores w tag with
    | none => simpa [hs, tagScore] using hstay
    | some s =>
      by_cases hfinite : Score.isFinite s = true
      · simpa [hs, tagScore, hfinite] using hitem s
      · simpa [hs, tagScore, hfinite] using hstay

/-- Storing the scores of the tags one after the other leads to the layer of their scores. -/
theorem foldl_putTag {v : Vocabulary} {sentence : List String} (hw : sentence[i]? = some w) :
    (List.range v.size).foldl (putTag v scores w) (Layer.empty v.size) = seeds v scores sentence i := by
  have hfold : ∀ m ≤ v.size,
      Array.size ((List.range m).foldl (putTag v scores w) (Layer.empty v.size)) = v.size ∧
      ∀ k, Layer.item ((List.range m).foldl (putTag v scores w) (Layer.empty v.size)) k =
        if k < m then (seeds v scores sentence i).item k else ⟨Score.bottom, none⟩ := by
    intro m hm
    induction m with
    | zero => simp
    | succ m ih =>
      obtain ⟨hsize, hitem⟩ := ih (by omega)
      rw [List.range_succ, List.foldl_append, List.foldl_cons, List.foldl_nil]
      refine ⟨(size_putTag v _ m).trans hsize, fun k => ?_⟩
      rw [item_putTag hw (by omega) (by simp [hitem]), hitem]
      by_cases hkm : m = k
      · subst hkm
        simp
      · have hlt : k < m ↔ k < m + 1 := by omega
        simp [hkm, hlt]
  have hi : i < sentence.length := (List.getElem?_eq_some_iff.mp hw).1
  obtain ⟨hsize, hitem⟩ := hfold v.size le_rfl
  refine Layer.ext_item (hsize.trans (size_seeds hi).symm) fun k hk => ?_
  rw [hitem, if_pos (hsize ▸ hk)]

end Tags

section Parse

variable [OrderedScore σ] {scores : String → String → Option σ} {c : Chart σ}

/-- Over a word the cell becomes the one that the parser fills in. -/
theorem parseWord_eq (hc : c.IsSquare) (hcl : c.closure.IsProper c.grammar.numSymbols) {i : Nat}
    (hi : i < c.length) (hempty : c.cell i (i + 1) = Cell.empty c.grammar.numSymbols) :
    parseWord scores c i = c.setCell i (i + 1)
      (c.wordCell ((tagTable c.grammar.vocabulary scores c.sentence).getD i [])) := by
  obtain ⟨w, hw⟩ : ∃ w, c.sentence[i]? = some w := ⟨_, List.getElem?_eq_getElem hi⟩
  have htags : (List.range c.grammar.numSymbols).foldl (storeTag scores i w) c =
      c.setCell i (i + 1) ⟨seeds c.grammar.vocabulary scores c.sentence i,
        Layer.empty c.grammar.numSymbols⟩ := by
    have h := foldl_setCell (c := c) (i := i) (j := i + 1)
      (Cell.mk · (Layer.empty c.grammar.numSymbols)) (storeTag scores i w) _
      (List.range c.grammar.numSymbols) (fun l x _ => storeTag_setCell hc hi l _ x)
      (Layer.empty c.grammar.numSymbols)
    rw [← foldl_putTag hw, ← Grammar.numSymbols, ← h]
    congr 1
    exact ((setCell_cell hc hi.le hi).symm.trans (congrArg _ hempty))
  unfold parseWord
  rw [hw]
  dsimp only
  rw [htags, close_setCell hc hi.le hi, cell_setCell_self hc hi.le hi, wordCell, applyClosure_eq hcl]
  rfl

/-- Parse a span. -/
def step (scores : String → String → Option σ) (c : Chart σ) (s : Nat × Nat) : Chart σ :=
  if s.2 = s.1 + 1 then parseWord scores c s.1 else parseSpan s.1 s.2 c

/-- As long as the cells of the spans are empty, parsing them fills them in. -/
theorem foldl_step (tags : List (List σ)) (ss : List (Nat × Nat)) (hc : c.IsSquare)
    (hg : c.grammar.IsProper) (hcl : c.closure.IsProper c.grammar.numSymbols)
    (htags : tags = tagTable c.grammar.vocabulary scores c.sentence)
    (hin : ∀ s ∈ ss, s.1 < s.2 ∧ s.2 ≤ c.length) (hss : ss.Nodup)
    (hempty : ∀ s ∈ ss, c.cell s.1 s.2 = Cell.empty c.grammar.numSymbols) :
    ss.foldl (step scores) c = ss.foldl (fillSpan tags) c := by
  induction ss generalizing c with
  | nil => rfl
  | cons s ss ih =>
    rw [List.nodup_cons] at hss
    obtain ⟨hlt, hle⟩ := hin s (by simp)
    have hstep : step scores c s = fillSpan tags c s := by
      unfold step fillSpan
      split_ifs with hword
      · rw [parseWord_eq hc hcl (by omega) (hword ▸ hempty s (by simp)), htags, hword]
      · exact parseSpan_eq hc hg hcl (by omega) hle (hempty s (by simp))
    rw [List.foldl_cons, List.foldl_cons, hstep]
    refine ih (c := fillSpan tags c s) (hc.setCell _ _ _) hg hcl htags
      (fun t ht => hin t (by simp [ht])) hss.2 fun t ht => ?_
    rw [fillSpan_eq, cell_setCell_ne hle (hin t (by simp [ht])).2, hempty t (by simp [ht])]
    · rfl
    · rintro ⟨h₁, h₂⟩
      exact hss.1 (Prod.ext h₁ h₂ ▸ ht)

omit [OrderedScore σ] in
/-- The sequential parser goes through all spans in their order. -/
theorem parse_eq_foldl (g : Grammar σ) (closure : Closure σ) (sentence : List String) (root : String) :
    parse g closure scores sentence root =
      (spans sentence.length).foldl (step scores) (empty g closure sentence root) := by
  unfold parse spans
  cases hn : sentence.length with
  | zero => rfl
  | succ m =>
    rw [List.range'_succ, List.flatMap_cons, List.foldl_append, List.foldl_map, List.foldl_flatMap]
    have hwords : (List.range (m + 1)).foldl (parseWord scores) (empty g closure sentence root) =
        (List.range (m + 1)).foldl (fun c start => step scores c (start, start + 1))
          (empty g closure sentence root) :=
      List.foldl_ext _ _ _ fun c i _ => (if_pos rfl).symm
    simp only [Nat.add_sub_cancel]
    rw [hwords]
    refine List.foldl_ext _ _ _ fun c width hwidth => ?_
    rw [List.foldl_map]
    refine List.foldl_ext _ _ _ fun c start _ => ?_
    rw [List.mem_range'_1] at hwidth
    exact (if_neg (by simp only; omega)).symm

/-- The sequential parser fills the same cells as the parser. -/
theorem parse_eq_fill {g : Grammar σ} (hg : g.IsProper) {closure : Closure σ}
    (hcl : closure.IsProper g.numSymbols) (sentence : List String) (root : String) :
    parse g closure scores sentence root =
      fill g closure sentence root (tagTable g.vocabulary scores sentence) := by
  rw [parse_eq_foldl, fill]
  exact foldl_step _ _ (isSquare_empty g closure sentence root) hg hcl rfl
    (fun s hs => mem_spans.mp hs) ((pairwise_spans _).imp Precedes.ne)
    fun s _ => cell_empty g closure sentence root s.1 s.2

end Parse

end Sequential

/-- The parser leads to the chart of the sequential parser. Every score of the binary layer comes from
the first split, left child and rule among those with the greatest score, and every score of the unary
layer from the first child among those. -/
theorem parse_eq_sequential {σ ε : Type} [Score σ] [OrderedScore σ] (v : Vocabulary)
    (binary : List (BinaryRule σ)) (unary : List (UnaryRule σ)) (g : Grammar σ)
    (hg : Grammar.ofRules? v binary unary = .ok g) (closure : Closure σ)
    (hcl : Closure.ofRules? g.numSymbols g.unary = .ok closure)
    (lexicon : String → String → Except ε (Option σ)) (scores : String → String → Option σ)
    (sentence : List String) (hlex : Answers g.vocabulary lexicon sentence scores) (root : String) :
    ∃ c, parse g closure lexicon sentence root = .ok c ∧
      c = Sequential.parse g closure scores sentence root ∧
      ∀ i j x : Nat, j ≤ sentence.length → x < g.numSymbols →
        (i < j → Item.IsFirstBest ⟨Score.bottom, none⟩
          ((c.binaryCandidates i j).filter fun d => d.symbol = (x : Symbol)) ((c.cell i j).binary.item x)) ∧
        (j = i + 1 → Item.IsFirstBest ((seeds g.vocabulary scores sentence i).item x)
          ((List.range g.numSymbols).map fun child =>
            chainCandidate closure ((seeds g.vocabulary scores sentence i).score ·) child x)
          ((c.cell i j).unary.item x)) ∧
        (i + 1 < j → Item.IsFirstBest ⟨Score.bottom, none⟩
          ((List.range g.numSymbols).map fun child =>
            chainCandidate closure ((c.cell i j).binary.score ·) child x)
          ((c.cell i j).unary.item x)) := by
  obtain ⟨-, hproper⟩ := Grammar.isProper_of_ofRules? hg
  have hclosure := Closure.isProper_of_ofRules? hproper.unary hcl
  have hfinished := isFinished_fill g closure scores sentence root
  refine ⟨_, parse_eq_fill hlex closure root,
    (Sequential.parse_eq_fill hproper hclosure sentence root).symm,
    fun i j x hj hx => ⟨fun hij => ?_, ?_, fun hij => ?_⟩⟩
  · have hfilter := hfinished.filter_binaryCandidates hproper i j x
    rcases Nat.eq_or_lt_of_le hij with rfl | hij
    · rw [hfinished.binary_word hj]
      refine Or.inl ⟨rfl, fun d hd => ?_⟩
      simp [binaryCandidates] at hd
    · rw [hfilter]
      exact hfinished.binary_span hproper hij hj hx
  · rintro rfl
    exact hfinished.unary_word hclosure hj hx
  · exact hfinished.unary_span hclosure hij hj hx

theorem parse_eq_sequential_tiny : ∃ closure,
    Grammar.ofRules? tinyGrammar.vocabulary tinyGrammar.binary tinyGrammar.unary = .ok tinyGrammar ∧
    Closure.ofRules? tinyGrammar.numSymbols tinyGrammar.unary = .ok closure ∧
    Answers tinyGrammar.vocabulary tinyLexicon ["b", "b"] tinyScores ∧
    parse tinyGrammar closure tinyLexicon ["b", "b"] "S" =
      .ok (Sequential.parse tinyGrammar closure tinyScores ["b", "b"] "S") := by
  obtain ⟨closure, hcl⟩ := exists_tinyClosure
  obtain ⟨c, hparse, hc, -⟩ := parse_eq_sequential tinyGrammar.vocabulary tinyGrammar.binary
    tinyGrammar.unary tinyGrammar ofRules?_tinyGrammar closure hcl tinyLexicon tinyScores ["b", "b"]
    (answers_tinyLexicon _) "S"
  refine ⟨closure, ofRules?_tinyGrammar, hcl, answers_tinyLexicon _, ?_⟩
  rw [hparse, hc]

end Constituency.Chart
