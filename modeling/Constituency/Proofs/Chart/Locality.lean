import Constituency.Proofs.Chart.Reconstruction

/-!
# Cells depend on their words

A cell is filled from the layers of the parts of its span, and over one word from the scores of the tags of
this word. So the same words have the same cells, whatever stands around them (`IsFinished.cell_eq`): the
charts of two sentences agree wherever the sentences do. Only the places of splits are counted from the front
of a sentence, so they are moved by the distance of the words.
-/
namespace Constituency

variable {σ β γ : Type}

/-- The same split of words that stand further behind, or further in front. -/
def Split.shift (distance : Int) (s : Split) : Split := { s with position := s.position + distance }

/-- An item whose score comes from elsewhere. -/
def Item.mapBack (f : β → γ) (item : Item σ β) : Item σ γ := ⟨item.score, item.back.map f⟩

/-- A candidate whose score comes from elsewhere. -/
def Candidate.mapBack (f : β → γ) (c : Candidate σ β) : Candidate σ γ := ⟨c.symbol, c.score, f c.back⟩

namespace Layer

variable [Score σ]

omit [Score σ] in
/-- A layer whose scores come from elsewhere. -/
def mapBack (f : β → γ) (l : Layer σ β) : Layer σ γ := Array.map (Item.mapBack f) l

variable (f : β → γ)

theorem mapBack_empty (n : Nat) : (empty n : Layer σ β).mapBack f = empty n := by
  rw [mapBack, empty, Array.map_replicate]
  rfl

@[simp] theorem item_mapBack (l : Layer σ β) (k : Nat) : (l.mapBack f).item k = (l.item k).mapBack f := by
  unfold item mapBack
  rw [Array.getD_eq_getD_getElem?, Array.getD_eq_getD_getElem?, Array.getElem?_map]
  cases l[k]? <;> rfl

/-! Scores are compared without looking at where they come from. -/

@[simp] theorem score_mapBack (l : Layer σ β) (x : Symbol) : (l.mapBack f).score x = l.score x := by
  unfold score mapBack
  rw [Array.getElem?_map]
  cases l[x.toNat]? <;> rfl

@[simp] theorem beats_mapBack (l : Layer σ β) (c : Candidate σ β) :
    (l.mapBack f).beats (c.mapBack f) = l.beats c := by
  simp only [beats, score_mapBack, Candidate.mapBack]

theorem relax_mapBack (l : Layer σ β) (c : Candidate σ β) :
    (l.mapBack f).relax (c.mapBack f) = (l.relax c).mapBack f := by
  unfold relax
  rw [beats_mapBack]
  split_ifs
  · rw [assign, assign, mapBack, mapBack, Array.map_setIfInBounds]
    rfl
  · rfl

theorem relaxAll_mapBack (l : Layer σ β) (cs : List (Candidate σ β)) :
    (l.mapBack f).relaxAll (cs.map (Candidate.mapBack f)) = (l.relaxAll cs).mapBack f := by
  have hbeats : (l.mapBack f).beats ∘ Candidate.mapBack f = l.beats := funext (beats_mapBack f l)
  rw [relaxAll, relaxAll, List.filter_map, hbeats, List.foldl_map]
  exact List.foldl_hom (mapBack f) fun l c => relax_mapBack f l c

end Layer

namespace Chart

variable [Score σ]

theorem map_groupCandidates {split split' : Nat} {distance : Int} (h : (split' : Int) = split + distance)
    (left right : Layer σ Symbol) (g : LeftGroup σ) :
    (groupCandidates split left right g).map (Candidate.mapBack (Split.shift distance)) =
      groupCandidates split' left right g := by
  rw [groupCandidates, groupCandidates, List.map_map]
  refine List.map_congr_left fun r _ => ?_
  simp only [Function.comp_apply, Candidate.mapBack, Split.shift, h]

/-- What rules derive over one split does not depend on where the split is. -/
theorem combine_shift {split split' : Nat} {distance : Int} (h : (split' : Int) = split + distance)
    (groups : List (LeftGroup σ)) (left right : Layer σ Symbol) (l : Layer σ Split) :
    combine groups split' left right (l.mapBack (Split.shift distance)) =
      (combine groups split left right l).mapBack (Split.shift distance) := by
  unfold combine
  refine List.foldl_hom (Layer.mapBack (Split.shift distance)) fun l g => ?_
  rw [← map_groupCandidates h]
  split_ifs
  · exact Layer.relaxAll_mapBack _ _ _
  · rfl

/-- A binary layer over a span, from other layers of the same parts. -/
theorem binaryLayer_shift {c d : Chart σ} (hg : d.grammar = c.grammar) {a b n : Nat}
    (hleft : ∀ k, 0 < k → k < n → (d.cell b (b + k)).unary = (c.cell a (a + k)).unary)
    (hright : ∀ k, 0 < k → k < n → (d.cell (b + k) (b + n)).unary = (c.cell (a + k) (a + n)).unary) :
    d.binaryLayer b (b + n) = (c.binaryLayer a (a + n)).mapBack (Split.shift (b - a)) := by
  have hsplits : ∀ s : Nat, List.range' (s + 1) (s + n - s - 1) =
      (List.range' 1 (n - 1)).map (s + ·) := by
    intro s
    rw [List.map_add_range']
    congr 1
    omega
  unfold binaryLayer
  rw [hsplits, hsplits, List.foldl_map, List.foldl_map, hg]
  refine List.foldl_rel (r := fun l l' => l = Layer.mapBack (Split.shift (b - a)) l')
    (Layer.mapBack_empty _ _).symm ?_
  rintro k hk _ l rfl
  rw [List.mem_range'_1] at hk
  rw [hleft k (by omega) (by omega), hright k (by omega) (by omega)]
  exact combine_shift (by push_cast; omega) _ _ _ _

/-! ### Two charts -/

/-- The scores that a lexicon gives, and none where it gives up. -/
def givenScores {ε : Type} (lexicon : String → String → Except ε (Option σ)) (w tag : String) : Option σ :=
  (lexicon w tag).toOption.join

theorem answers_of_parse {ε : Type} {g : Grammar σ} {closure : Closure σ}
    {lexicon : String → String → Except ε (Option σ)} {sentence : List String} {root : String} {c : Chart σ}
    (h : parse g closure lexicon sentence root = .ok c) :
    Answers g.vocabulary lexicon sentence (givenScores lexicon) := by
  obtain ⟨tags, htags⟩ := exists_of_map_eq_ok h
  intro w hw tag htag
  obtain ⟨row, hrow⟩ := exists_of_mapM_eq_ok htags hw
  obtain ⟨score, hscore⟩ := exists_of_mapM_eq_ok hrow htag
  obtain ⟨given, hgiven⟩ := exists_of_map_eq_ok hscore
  rw [givenScores, hgiven]
  rfl

/-- Every chart that comes of a sentence is finished. -/
theorem isFinished_of_parse {ε : Type} {g : Grammar σ} {closure : Closure σ}
    {lexicon : String → String → Except ε (Option σ)} {sentence : List String} {root : String} {c : Chart σ}
    (h : parse g closure lexicon sentence root = .ok c) :
    IsFinished g closure (givenScores lexicon) sentence root c := by
  rw [parse_eq_fill (answers_of_parse h)] at h
  exact Except.ok.inj h ▸ isFinished_fill g closure _ sentence root

namespace IsFinished

variable {g : Grammar σ} {closure : Closure σ} {scores : String → String → Option σ}
  {s t : List String} {root root' : String} {c d : Chart σ} {a b n : Nat}

/-- Over one word, the cells are those of the word. -/
theorem cell_word_eq (hc : IsFinished g closure scores s root c) (hd : IsFinished g closure scores t root' d)
    (ha : a < s.length) (hb : b < t.length) (hword : t[b]? = s[a]?) :
    d.cell b (b + 1) = c.cell a (a + 1) := by
  have hseeds : seeds g.vocabulary scores t b = seeds g.vocabulary scores s a := by
    simp [seeds, tagTable, hword]
  rw [hc.word a ha, hd.word b hb, hseeds]

/-- Over the same words, two charts have the same cells, but for the places of the splits. -/
theorem cell_eq (hc : IsFinished g closure scores s root c) (hd : IsFinished g closure scores t root' d)
    (ha : a + n ≤ s.length) (hb : b + n ≤ t.length) (hwords : ∀ k < n, t[b + k]? = s[a + k]?) :
    (d.cell b (b + n)).unary = (c.cell a (a + n)).unary ∧
      (d.cell b (b + n)).binary = (c.cell a (a + n)).binary.mapBack (Split.shift (b - a)) := by
  induction n using Nat.strong_induction_on generalizing a b with
  | _ n ih =>
    match n with
    | 0 =>
      rw [hc.outside a (a + 0) le_rfl ha, hd.outside b (b + 0) le_rfl hb]
      exact ⟨rfl, (Layer.mapBack_empty _ _).symm⟩
    | 1 =>
      rw [hc.cell_word_eq hd ha hb (hwords 0 one_pos), hc.word a ha]
      exact ⟨rfl, (Layer.mapBack_empty _ _).symm⟩
    | n + 2 =>
      -- Both parts of a split are shorter, and stand over the same words.
      have hleft : ∀ k, 0 < k → k < n + 2 → (d.cell b (b + k)).unary = (c.cell a (a + k)).unary :=
        fun k _ hk => (ih k hk (by omega) (by omega) fun l hl => hwords l (by omega)).1
      have hright : ∀ k, 0 < k → k < n + 2 →
          (d.cell (b + k) (b + (n + 2))).unary = (c.cell (a + k) (a + (n + 2))).unary := by
        intro k hk hkn
        obtain ⟨l, hl⟩ := Nat.exists_eq_add_of_lt hkn
        have hpart := (ih (l + 1) (by omega) (a := a + k) (b := b + k) (by omega) (by omega)
          fun p hp => by simpa only [Nat.add_assoc] using hwords (k + p) (by omega)).1
        rw [hl]
        simpa only [Nat.add_assoc] using hpart
      have hbinary := binaryLayer_shift (hd.grammar_eq.trans hc.grammar_eq.symm) hleft hright
      rw [hc.span a _ (by omega) ha, hd.span b _ (by omega) hb]
      refine ⟨?_, hbinary⟩
      simp only [spanCell, hbinary, Layer.score_mapBack, hc.grammar_eq, hd.grammar_eq, hc.closure_eq,
        hd.closure_eq]

end IsFinished

/-- The charts of two sentences agree wherever the sentences do. Over every span of words that stand in both,
each symbol has the same score, from the same symbol below or from the same split, whose place is counted from
the front of its own sentence. -/
theorem items_eq_of_words {ε : Type} (g : Grammar σ) (closure : Closure σ)
    (lexicon : String → String → Except ε (Option σ)) (s t : List String) (root root' : String) (c d : Chart σ)
    (hc : parse g closure lexicon s root = .ok c) (hd : parse g closure lexicon t root' = .ok d)
    (a b m : Nat) (hwords : (s.drop a).take m = (t.drop b).take m) (i j : Nat) (hij : i ≤ j) (hj : j ≤ m)
    (ha : a + j ≤ s.length) (hb : b + j ≤ t.length) (x : Nat) (hx : x < g.numSymbols) :
    ∃ (u : Item σ Symbol) (v : Item σ Split),
      c.unaryItem (a + i : Nat) (a + j : Nat) x = .ok u ∧ d.unaryItem (b + i : Nat) (b + j : Nat) x = .ok u ∧
      c.binaryItem (a + i : Nat) (a + j : Nat) x = .ok v ∧
      d.binaryItem (b + i : Nat) (b + j : Nat) x = .ok (v.mapBack (Split.shift (b - a))) := by
  have hc := isFinished_of_parse hc
  have hd := isFinished_of_parse hd
  have hcell : (d.cell (b + i) (b + j)).unary = (c.cell (a + i) (a + j)).unary ∧
      (d.cell (b + i) (b + j)).binary = (c.cell (a + i) (a + j)).binary.mapBack (Split.shift (b - a)) := by
    obtain ⟨n, rfl⟩ := Nat.exists_eq_add_of_le hij
    have hword : ∀ k < n, t[b + i + k]? = s[a + i + k]? := by
      intro k hk
      have hk' := congrArg (·[i + k]?) hwords
      rw [List.getElem?_take_of_lt (by omega), List.getElem?_take_of_lt (by omega), List.getElem?_drop,
        List.getElem?_drop] at hk'
      rw [Nat.add_assoc, Nat.add_assoc, hk']
    have hdistance : ((b + i : Nat) : Int) - (a + i : Nat) = b - a := by omega
    have hshift := hc.cell_eq hd (n := n) (by omega : a + i + n ≤ _) (by omega : b + i + n ≤ _) hword
    rwa [hdistance, Nat.add_assoc, Nat.add_assoc] at hshift
  have hrange := natCast_range hx
  have hcl := hc.length_eq
  have hdl := hd.length_eq
  refine ⟨_, _, unaryItem_eq hc.grammar_eq (by omega) (by omega) hrange, ?_,
    binaryItem_eq hc.grammar_eq (by omega) (by omega) hrange, ?_⟩
  · rw [unaryItem_eq hd.grammar_eq (by omega) (by omega) hrange, hcell.1]
  · rw [binaryItem_eq hd.grammar_eq (by omega) (by omega) hrange, hcell.2, Layer.item_mapBack]

/-- The words that two sentences share stand further behind in the first one, and so does the split. -/
theorem items_eq_of_words_tiny : ∃ closure c d,
    Closure.ofRules? tinyGrammar.numSymbols tinyGrammar.unary = .ok closure ∧
    parse tinyGrammar closure tinyLexicon ["a", "b", "b"] "S" = .ok c ∧
    parse tinyGrammar closure tinyLexicon ["b", "b"] "S" = .ok d ∧
    ∃ u v, c.unaryItem 1 3 0 = .ok u ∧ d.unaryItem 0 2 0 = .ok u ∧
      c.binaryItem 1 3 0 = .ok v ∧ d.binaryItem 0 2 0 = .ok (v.mapBack (Split.shift (-1))) ∧
      v.back = some ⟨2, 1, 1, 0⟩ := by
  refine ⟨_, _, _, rfl, rfl, rfl, ?_⟩
  obtain ⟨u, v, hu, hu', hv, hv'⟩ := items_eq_of_words tinyGrammar _ tinyLexicon ["a", "b", "b"] ["b", "b"]
    "S" "S" _ _ rfl rfl 1 0 2 rfl 0 2 (by decide) (by decide) (by decide) (by decide) 0 (by decide)
  refine ⟨u, v, hu, hu', hv, hv', ?_⟩
  have hback : (Except.ok v : Except PlaceError _).toOption.bind Item.back = some ⟨2, 1, 1, 0⟩ := by
    rw [← hv]
    decide +kernel
  exact hback

end Chart

end Constituency
