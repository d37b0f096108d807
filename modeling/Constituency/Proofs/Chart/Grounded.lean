import Constituency.Proofs.Chart.Reconstruction
import Constituency.Proofs.Closure.Links
import Constituency.Proofs.Score.Grounded

/-!
# Derivations without exact numbers

Doubles obey few laws, so the score of a chart may be off from that of any derivation. Every score still
leads back to the words: an item other than `bottom` was written by a candidate whose parts are no `bottom`
either (`comesFrom_unary_word`, `comesFrom_unary_span`, `comesFrom_binary_span`), and a chain that is
listed for it is one of rules. By induction on the width of the span, rebuilding the derivation of such an
item succeeds (`leadsBack`).
-/
namespace Constituency

namespace Layer

variable {σ β : Type} [Score σ] {P : Candidate σ β → Prop}

/-- Every item of a layer is that of an earlier layer, or was written by a candidate of some kind. -/
def ComesFrom (P : Candidate σ β → Prop) (old new : Layer σ β) : Prop :=
  ∀ k, new.item k = old.item k ∨
    ∃ c, P c ∧ c.symbol.toNat = k ∧ new.item k = ⟨c.score, some c.back⟩

theorem ComesFrom.refl (l : Layer σ β) : l.ComesFrom P l := fun _ => Or.inl rfl

theorem ComesFrom.trans {l m n : Layer σ β} (hlm : l.ComesFrom P m) (hmn : m.ComesFrom P n) :
    l.ComesFrom P n := by
  intro k
  rcases hmn k with hstay | hnew
  · rw [hstay]
    exact hlm k
  · exact Or.inr hnew

theorem comesFrom_assign (l : Layer σ β) {c : Candidate σ β} (hc : P c) :
    l.ComesFrom P (l.assign c) := by
  intro k
  by_cases hk : k < l.size
  · rw [item_assign l c hk]
    split_ifs with hck
    · exact Or.inr ⟨c, hc, hck, rfl⟩
    · exact Or.inl rfl
  · exact Or.inl (by simp [item, hk])

theorem comesFrom_foldl {α : Type} {f : Layer σ β → α → Layer σ β} {xs : List α}
    (h : ∀ (l : Layer σ β), ∀ x ∈ xs, l.ComesFrom P (f l x)) (l : Layer σ β) :
    l.ComesFrom P (xs.foldl f l) :=
  List.foldlRecOn xs f (ComesFrom.refl l) fun m hm x hx => hm.trans (h m x hx)

theorem comesFrom_relax (l : Layer σ β) {c : Candidate σ β} (hc : P c) :
    l.ComesFrom P (l.relax c) := by
  unfold relax
  split_ifs
  · exact comesFrom_assign l hc
  · exact ComesFrom.refl l

theorem comesFrom_relaxAll (l : Layer σ β) {cs : List (Candidate σ β)}
    (h : ∀ c ∈ cs, (∃ s, Score.lt s c.score = true) → P c) : l.ComesFrom P (l.relaxAll cs) := by
  refine comesFrom_foldl (fun m c hc => comesFrom_relax m ?_) l
  obtain ⟨hc, hbeats⟩ := List.mem_filter.mp hc
  exact h c hc ⟨_, hbeats⟩

theorem comesFrom_assignAll (l : Layer σ β) {cs : List (Candidate σ β)} (h : ∀ c ∈ cs, P c) :
    l.ComesFrom P (l.assignAll cs) :=
  comesFrom_foldl (fun m c hc => comesFrom_assign m (h c (List.mem_filter.mp hc).1)) l

end Layer

theorem Grammar.IsProper.of_mem_groups {σ : Type} {g : Grammar σ} (h : g.IsProper)
    {group : LeftGroup σ} (hgroup : group ∈ g.groups) {r : BinaryRule σ} (hr : r ∈ group.rules) :
    r ∈ g.binary ∧ r.left = group.left := by
  rw [h.groups_eq, groupByLeft_eq fun r hr => (h.binary r hr).2.1] at hgroup
  obtain ⟨_, hentry, rfl⟩ := List.mem_map.mp hgroup
  obtain ⟨x, -, rfl⟩ := List.mem_map.mp hentry
  exact mem_rulesOf.mp hr

namespace Chart

variable {σ : Type} [Score σ]

/-- A candidate of the closure over a child that can be derived. -/
def IsChainCandidate (closure : Closure σ) (n : Nat) (source : Symbol → σ)
    (d : Candidate σ Symbol) : Prop :=
  ∃ child < n, ∃ s, Score.isFinite (source child) = true ∧
    (d.symbol, s) ∈ closure.parentsOf child ∧ d.back = child

/-- A candidate of a rule over two parts, of which the left one can be derived, that is above some score. -/
def IsSplitCandidate (c : Chart σ) (start stop : Nat) (d : Candidate σ Split) : Prop :=
  ∃ r ∈ c.grammar.binary, ∃ split, start < split ∧ split < stop ∧
    Score.isFinite ((c.cell start split).unary.score r.left) = true ∧
    (∃ s, Score.lt s (Score.add (Score.add r.score ((c.cell start split).unary.score r.left))
      ((c.cell split stop).unary.score r.right)) = true) ∧
    d.symbol = r.parent ∧ d.back = ⟨split, r.left, r.right, r.parent⟩

theorem comesFrom_applyClosure (closure : Closure σ) (n : Nat) (source : Symbol → σ)
    (l : Layer σ Symbol) :
    l.ComesFrom (IsChainCandidate closure n source) (applyClosure closure n source l) := by
  refine Layer.comesFrom_foldl (fun m child hchild => ?_) l
  dsimp only
  split_ifs with hfinite
  · refine Layer.comesFrom_assignAll m fun d hd => ?_
    obtain ⟨⟨p, s⟩, hp, rfl⟩ := List.mem_map.mp hd
    exact ⟨child, List.mem_range.mp hchild, s, hfinite, hp, rfl⟩
  · exact Layer.ComesFrom.refl m

theorem comesFrom_binaryLayer {c : Chart σ} (hg : c.grammar.IsProper) (start stop : Nat) :
    Layer.ComesFrom (c.IsSplitCandidate start stop) (Layer.empty c.grammar.numSymbols)
      (c.binaryLayer start stop) := by
  refine Layer.comesFrom_foldl (fun l split hsplit => ?_) _
  rw [List.mem_range'_1] at hsplit
  refine Layer.comesFrom_foldl (fun m group hgroup => ?_) l
  split_ifs with hfinite
  · refine Layer.comesFrom_relaxAll m fun d hd hlt => ?_
    obtain ⟨r, hr, rfl⟩ := mem_groupCandidates.mp hd
    obtain ⟨hmem, hleft⟩ := hg.of_mem_groups hgroup hr
    rw [← hleft] at hfinite hlt
    exact ⟨r, hmem, split, by omega, by omega, hfinite, hlt, rfl, by rw [hleft]⟩
  · exact Layer.ComesFrom.refl m

/-- A finished chart with the closure of the unary rules of its grammar. -/
structure IsGrounded (g : Grammar σ) (closure : Closure σ) (scores : String → String → Option σ)
    (sentence : List String) (root : String) (c : Chart σ) : Prop
    extends IsFinished g closure scores sentence root c where
  proper : g.IsProper
  lists : Closure.Lists g.numSymbols g.unary closure

variable {g : Grammar σ} {closure : Closure σ} {scores : String → String → Option σ}
  {sentence : List String} {root : String} {c : Chart σ}

/-- The parser leads to a finished chart. -/
theorem exists_isGrounded {ε : Type} (hproper : g.IsProper)
    (hcl : Closure.ofRules? g.numSymbols g.unary = .ok closure)
    {lexicon : String → String → Except ε (Option σ)}
    (hlex : Answers g.vocabulary lexicon sentence scores) (root : String) :
    ∃ c, parse g closure lexicon sentence root = .ok c ∧
      IsGrounded g closure scores sentence root c :=
  ⟨_, parse_eq_fill hlex closure root, isFinished_fill g closure scores sentence root, hproper,
    Closure.lists_of_ofRules? hcl⟩

/-- There is a derivation that is rebuilt through so many scores. -/
def LeadsBack (g : Grammar σ) (scores : String → String → Option σ) (sentence : List String)
    (c : Chart σ) (x : Symbol) (i j : Nat) (preferUnary : Bool) (depth : Nat) : Prop :=
  ∃ d : Derivation g scores sentence x i j,
    ∀ fuel, depth ≤ fuel → c.deriveUpTo fuel x i j preferUnary = .ok d.tree

theorem LeadsBack.mono {x : Symbol} {i j : Nat} {preferUnary : Bool} {depth depth' : Nat}
    (h : LeadsBack g scores sentence c x i j preferUnary depth) (hle : depth ≤ depth') :
    LeadsBack g scores sentence c x i j preferUnary depth' := by
  obtain ⟨d, hderive⟩ := h
  exact ⟨d, fun fuel hfuel => hderive fuel (hle.trans hfuel)⟩

namespace IsGrounded

variable (h : IsGrounded g closure scores sentence root c)

include h

/-- A derivation goes on upwards along a chain that is listed, and so does its tree. -/
theorem exists_over {p q : Symbol} (hpq : p ≠ q) (hchain : (closure.chain? p q).isSome) {i j : Nat}
    (d : Derivation g scores sentence q i j) :
    ∃ (e : Derivation g scores sentence p i j) (above : List Symbol),
      (∀ start stop, c.chainUp p q start stop = .ok (q :: above)) ∧
      c.wrap d.tree above = .ok e.tree := by
  obtain ⟨path, hpath⟩ := Option.isSome_iff_exists.mp hchain
  obtain ⟨rs, hrs, hl, rfl⟩ := Closure.exists_leads h.lists hpq hpath
  obtain ⟨e, he⟩ := d.exists_over hrs hl
  refine ⟨e, (rs.map (·.parent)).reverse, fun start stop => ?_, ?_⟩
  · rw [chainUp, h.closure_eq, hpath, symbolsFrom_eq hl]
    simp
  · rw [wrap_chain h.grammar_eq h.proper hrs, he]

/-- The closure writes over the symbols to which a chain leads down to a child. -/
theorem symbol_eq {child k : Nat} (hchild : child < g.numSymbols) {p : Symbol} {s : σ}
    (hp : (p, s) ∈ closure.parentsOf child) (hk : p.toNat = k) :
    p = k ∧ (k ≠ child → (closure.chain? k child).isSome) := by
  have hlt : child < closure.numSymbols := h.lists.numSymbols_eq ▸ hchild
  by_cases hself : p = child
  · subst hself
    rw [Int.toNat_natCast] at hk
    exact ⟨by rw [hk], fun hne => absurd hk.symm hne⟩
  · have hsome := (Closure.isSome_chain?_of_mem_parentsOf hlt hp).resolve_left hself
    obtain ⟨path, hpath⟩ := Option.isSome_iff_exists.mp hsome
    obtain ⟨rs, hrs, hl, -⟩ := Closure.exists_leads h.lists hself hpath
    have hnonneg : 0 ≤ p := by
      cases rs with
      | nil => exact absurd hl hself
      | cons r rs =>
        rw [← hl.1]
        exact (h.proper.unary r (hrs r (by simp))).1.1
    have heq : p = k := by rw [← hk, Int.toNat_of_nonneg hnonneg]
    exact ⟨heq, fun _ => heq ▸ hsome⟩

variable [GroundedScore σ]

/-- Over a word a score comes from a tag, directly or through a chain. -/
theorem leadsBack_word {i : Nat} (hi : i < sentence.length) {x : Symbol}
    (hx : 0 ≤ x ∧ x < g.numSymbols) (hs : (c.cell i (i + 1)).unary.score x ≠ Score.bottom) :
    LeadsBack g scores sentence c x i (i + 1) true 1 := by
  have hlen := h.length_eq
  obtain ⟨k, rfl⟩ := Int.eq_ofNat_of_zero_le hx.1
  have hwidth : ((i + 1 : Nat) : Int) - i = 1 := by omega
  have hitem := unaryItem_eq h.grammar_eq (c := c) (i := i) (j := i + 1) (by omega) (by omega) hx
  have hcomes := comesFrom_applyClosure closure g.numSymbols
    ((seeds g.vocabulary scores sentence i).score ·) (seeds g.vocabulary scores sentence i) k
  rw [Layer.score_eq] at hs
  rw [Int.toNat_natCast, h.word i hi] at hs hitem
  rcases hcomes with hstay | ⟨d, ⟨child, hchild, s, hfound, hparent, hback⟩, hsymbol, hnew⟩
  · -- The score of the tag itself.
    rw [hstay] at hs hitem
    obtain ⟨w, tag, hw, htag, hscore, hfinite⟩ := tag_of_seed hi hs
    refine ⟨.word w tag _ hw htag hscore hfinite, fun fuel hfuel => ?_⟩
    obtain ⟨m, rfl⟩ := Nat.exists_eq_add_of_le' hfuel
    rw [deriveUpTo_word hwidth hitem (Or.inl (by rw [item_seeds hw])),
      wordNode_eq h.grammar_eq h.sentence_eq hx hw, Derivation.label_of_getElem? htag, Derivation.tree]
  · -- A chain down to the tag.
    dsimp only at hfound
    rw [Layer.score_eq, Int.toNat_natCast] at hfound
    obtain ⟨w, tag, hw, htag, hscore, hfinite⟩ :=
      tag_of_seed hi (GroundedScore.ne_bottom_of_isFinite hfound)
    obtain ⟨-, hchain⟩ := h.symbol_eq hchild hparent hsymbol
    rw [hnew, hback] at hitem
    by_cases hne : k = child
    · subst hne
      refine ⟨.word w tag _ hw htag hscore hfinite, fun fuel hfuel => ?_⟩
      obtain ⟨m, rfl⟩ := Nat.exists_eq_add_of_le' hfuel
      rw [deriveUpTo_word hwidth hitem (Or.inr rfl), wordNode_eq h.grammar_eq h.sentence_eq hx hw,
        Derivation.label_of_getElem? htag, Derivation.tree]
    · have hdiffer : (child : Symbol) ≠ k := fun heq => hne (Int.ofNat.inj heq).symm
      obtain ⟨e, above, hup, hwrap⟩ :=
        h.exists_over hdiffer.symm (hchain hne) (.word w tag _ hw htag hscore hfinite)
      refine ⟨e, fun fuel hfuel => ?_⟩
      obtain ⟨m, rfl⟩ := Nat.exists_eq_add_of_le' hfuel
      rw [deriveUpTo_word_chain hwidth hitem rfl hdiffer (hup _ _),
        wordNode_eq h.grammar_eq h.sentence_eq (natCast_range hchild) hw,
        Derivation.label_of_getElem? htag]
      exact hwrap

/-- A score of the unary layer over several words comes from the binary layer. -/
theorem leadsBack_unary {i j : Nat} (hij : i + 1 < j) (hj : j ≤ sentence.length) {x : Symbol}
    (hx : 0 ≤ x ∧ x < g.numSymbols) (hs : (c.cell i j).unary.score x ≠ Score.bottom) {depth : Nat}
    (hbinary : ∀ y : Symbol, 0 ≤ y ∧ y < g.numSymbols →
      (c.cell i j).binary.score y ≠ Score.bottom → LeadsBack g scores sentence c y i j false depth) :
    LeadsBack g scores sentence c x i j true (depth + 1) := by
  have hlen := h.length_eq
  obtain ⟨k, rfl⟩ := Int.eq_ofNat_of_zero_le hx.1
  have hwidth : (j : Int) - i ≠ 1 := by omega
  have hitem := unaryItem_eq h.grammar_eq (c := c) (i := i) (j := j) (by omega) (by omega) hx
  have hcomes := comesFrom_applyClosure closure g.numSymbols ((c.binaryLayer i j).score ·)
    (Layer.empty g.numSymbols) k
  have hbin : (c.cell i j).binary = c.binaryLayer i j := by rw [h.span i j hij hj, spanCell]
  rw [Layer.score_eq] at hs
  rw [Int.toNat_natCast, h.span i j hij hj, spanCell, h.closure_eq, h.grammar_eq] at hs hitem
  rcases hcomes with hstay | ⟨d, ⟨child, hchild, s, hfound, hparent, hback⟩, hsymbol, hnew⟩
  · rw [hstay, Layer.item_empty] at hs
    exact absurd rfl hs
  obtain ⟨-, hchain⟩ := h.symbol_eq hchild hparent hsymbol
  rw [← hbin] at hfound
  obtain ⟨d, hderive⟩ :=
    hbinary child (natCast_range hchild) (GroundedScore.ne_bottom_of_isFinite hfound)
  rw [hnew, hback] at hitem
  by_cases hne : k = child
  · -- The score of the layer below as it is.
    subst hne
    refine ⟨d, fun fuel hfuel => ?_⟩
    obtain ⟨m, rfl⟩ := Nat.exists_eq_add_of_le' (Nat.le_of_add_left_le hfuel)
    rw [deriveUpTo_unary hwidth hitem rfl, hderive m (by omega)]
  · -- A chain down to a symbol of the layer below.
    have hdiffer : (child : Symbol) ≠ k := fun heq => hne (Int.ofNat.inj heq).symm
    obtain ⟨e, above, hup, hwrap⟩ := h.exists_over hdiffer.symm (hchain hne) d
    refine ⟨e, fun fuel hfuel => ?_⟩
    obtain ⟨m, rfl⟩ := Nat.exists_eq_add_of_le' (Nat.le_of_add_left_le hfuel)
    rw [deriveUpTo_unary_chain hwidth hitem rfl hdiffer (hup _ _), hderive m (by omega)]
    exact hwrap

/-- A score of the binary layer over several words comes from the unary layers over two parts. -/
theorem leadsBack_binary {i j : Nat} (hij : i + 1 < j) (hj : j ≤ sentence.length) {x : Symbol}
    (hx : 0 ≤ x ∧ x < g.numSymbols) (hs : (c.cell i j).binary.score x ≠ Score.bottom) (depth : Nat)
    (hunary : ∀ (k l : Nat) (y : Symbol), k < l → l ≤ j → l - k < j - i → 0 ≤ y ∧ y < g.numSymbols →
      (c.cell k l).unary.score y ≠ Score.bottom → LeadsBack g scores sentence c y k l true depth) :
    LeadsBack g scores sentence c x i j false (depth + 1) := by
  have hlen := h.length_eq
  have hwidth : (j : Int) - i ≠ 1 := by omega
  have hitem := binaryItem_eq h.grammar_eq (c := c) (i := i) (j := j) (by omega) (by omega) hx
  have hcomes := comesFrom_binaryLayer (h.grammar_eq ▸ h.proper) i j x.toNat
  have hbin : (c.cell i j).binary = c.binaryLayer i j := by rw [h.span i j hij hj, spanCell]
  rw [Layer.score_eq] at hs
  rw [hbin] at hs hitem
  rcases hcomes with hstay | ⟨d, ⟨r, hr, split, hlo, hhi, hfound, ⟨s, hlt⟩, hparent, hback⟩, hsymbol, hnew⟩
  · rw [hstay, Layer.item_empty] at hs
    exact absurd rfl hs
  rw [h.grammar_eq] at hr
  obtain ⟨hrange, hleft, hright⟩ := h.proper.binary r hr
  obtain rfl : r.parent = x := by
    rw [hparent] at hsymbol
    rw [← Int.toNat_of_nonneg hrange.1, ← Int.toNat_of_nonneg hx.1, hsymbol]
  obtain ⟨left, hlderive⟩ := hunary i split r.left hlo hhi.le (by omega) hleft
    (GroundedScore.ne_bottom_of_isFinite hfound)
  obtain ⟨right, hrderive⟩ := hunary split j r.right hhi le_rfl (by omega) hright
    (GroundedScore.ne_bottom_of_lt_add hlt)
  rw [hnew, hback] at hitem
  refine ⟨.binary r hr left right, fun fuel hfuel => ?_⟩
  obtain ⟨m, rfl⟩ := Nat.exists_eq_add_of_le' (Nat.le_of_add_left_le hfuel)
  rw [deriveUpTo_binary hwidth hitem rfl (labelOf_eq h.grammar_eq hrange) (hlderive m (by omega))
    (hrderive m (by omega)), Derivation.tree]

/-- Every score of a chart leads back to a derivation. -/
theorem leadsBack {i j : Nat} (hij : i < j) (hj : j ≤ sentence.length) :
    (∀ x : Symbol, 0 ≤ x ∧ x < g.numSymbols → (c.cell i j).unary.score x ≠ Score.bottom →
      LeadsBack g scores sentence c x i j true (2 * (j - i))) ∧
    ∀ x : Symbol, 0 ≤ x ∧ x < g.numSymbols → (c.cell i j).binary.score x ≠ Score.bottom →
      LeadsBack g scores sentence c x i j false (2 * (j - i) - 1) := by
  induction hwidth : j - i using Nat.strong_induction_on generalizing i j with
  | h width ih =>
    rcases Nat.eq_or_lt_of_le hij with rfl | hij
    · refine ⟨fun x hx hs => (h.leadsBack_word hj hx hs).mono (by omega), fun x hx hs => ?_⟩
      rw [Layer.score_eq, h.binary_word hj] at hs
      exact absurd rfl hs
    · have hbinary : ∀ x : Symbol, 0 ≤ x ∧ x < g.numSymbols →
          (c.cell i j).binary.score x ≠ Score.bottom →
          LeadsBack g scores sentence c x i j false (2 * width - 1) := by
        intro x hx hs
        have hparts := h.leadsBack_binary hij hj hx hs (2 * width - 2) fun k l y hkl hl hlt hy hs =>
          ((ih (l - k) (by omega) hkl (by omega) rfl).1 y hy hs).mono (by omega)
        exact hparts.mono (by omega)
      exact ⟨fun x hx hs => (h.leadsBack_unary hij hj hx hs hbinary).mono (by omega), hbinary⟩

/-- When there is a parse, a derivation of the root is rebuilt; the best tree is what undoing its
binarization leaves. -/
theorem exists_derivation (hparse : c.hasParse = true) :
    ∃ (x : Nat) (d : Derivation g scores sentence x 0 sentence.length),
      g.vocabulary.find? root = some x ∧ c.rootSymbol? = some x ∧
      c.derive x 0 c.length true = .ok d.tree ∧ c.bestTree = .ok d.tree.unannotate := by
  have hlen := h.length_eq
  have hfinite := hparse
  rw [hasParse, rootScore, h.rootSymbol?_eq] at hfinite
  cases hx : g.vocabulary.find? root with
  | none =>
    rw [hx] at hfinite
    exact absurd rfl (GroundedScore.ne_bottom_of_isFinite hfinite)
  | some x =>
    rw [hx, hlen, Option.map_some] at hfinite
    have hs := GroundedScore.ne_bottom_of_isFinite hfinite
    dsimp only at hs
    have hpos : 0 < sentence.length := by
      by_contra hnone
      have hempty := h.outside 0 sentence.length (by omega) le_rfl
      rw [hempty, Cell.empty, Layer.score_eq, Layer.item_empty] at hs
      exact hs rfl
    obtain ⟨d, hderive⟩ := (h.leadsBack hpos le_rfl).1 x
      (natCast_range (Vocabulary.lt_size_of_find? hx)) hs
    have hroot : c.rootSymbol? = some (x : Symbol) := by rw [h.rootSymbol?_eq, hx]; rfl
    have htree : c.derive x 0 c.length true = .ok d.tree := by
      rw [hlen]
      exact hderive _ (by unfold depthBound; omega)
    refine ⟨x, d, rfl, hroot, htree, ?_⟩
    rw [bestTree, hparse, hroot]
    exact congrArg (Except.map Tree.unannotate) htree

omit [GroundedScore σ] in
theorem bestTree_of_not_hasParse (hparse : c.hasParse = false) : c.bestTree = .ok (failureTree root) := by
  rw [bestTree, hparse, h.root_eq]

end IsGrounded

end Chart

end Constituency
