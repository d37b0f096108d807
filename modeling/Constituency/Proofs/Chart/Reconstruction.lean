import Constituency.Chart.Derivation
import Constituency.Proofs.Chart.Bound
import Constituency.Proofs.Tree.Leaves

/-!
# Rebuilding derivations

In a finished chart every score leads back to a derivation that has this score. A score of the binary
layer comes from two shorter spans, a score of the unary layer from a chain of rules over the layer
below it (`rebuilds`).
-/
namespace Constituency.Chart

variable {σ : Type} [Score σ] [LawfulScore σ]

/-- A score is the one of a derivation that is rebuilt through so many scores. -/
def Rebuilds (g : Grammar σ) (scores : String → String → Option σ) (sentence : List String)
    (c : Chart σ) (x : Symbol) (i j : Nat) (preferUnary : Bool) (depth : Nat) (s : σ) : Prop :=
  ∃ d : Derivation g scores sentence x i j, d.score = s ∧ d.UsesBest ∧
    (preferUnary = false → d.isBinary = true) ∧
    ∀ fuel, depth ≤ fuel → c.deriveUpTo fuel x i j preferUnary = .ok d.tree

variable {g : Grammar σ} {closure : Closure σ} {scores : String → String → Option σ}
  {sentence : List String} {root : String} {c : Chart σ}

theorem Rebuilds.mono {x : Symbol} {i j : Nat} {preferUnary : Bool} {depth depth' : Nat} {s : σ}
    (h : Rebuilds g scores sentence c x i j preferUnary depth s) (hle : depth ≤ depth') :
    Rebuilds g scores sentence c x i j preferUnary depth' s := by
  obtain ⟨d, hs, hd, htop, hderive⟩ := h
  exact ⟨d, hs, hd, htop, fun fuel hfuel => hderive fuel (hle.trans hfuel)⟩

section Reading

omit [LawfulScore σ]

theorem unaryItem_eq (hg : c.grammar = g) {i j : Nat} (hi : i ≤ c.length) (hj : j ≤ c.length)
    {x : Symbol} (hx : 0 ≤ x ∧ x < g.numSymbols) :
    c.unaryItem i j x = .ok ((c.cell i j).unary.item x.toNat) := by
  subst hg
  obtain ⟨k, rfl⟩ := Int.eq_ofNat_of_zero_le hx.1
  rw [unaryItem, place_natCast c hi hj (Int.ofNat_lt.mp hx.2)]
  rfl

theorem binaryItem_eq (hg : c.grammar = g) {i j : Nat} (hi : i ≤ c.length) (hj : j ≤ c.length)
    {x : Symbol} (hx : 0 ≤ x ∧ x < g.numSymbols) :
    c.binaryItem i j x = .ok ((c.cell i j).binary.item x.toNat) := by
  subst hg
  obtain ⟨k, rfl⟩ := Int.eq_ofNat_of_zero_le hx.1
  rw [binaryItem, place_natCast c hi hj (Int.ofNat_lt.mp hx.2)]
  rfl

/-- The score of a symbol over a span is read from its cell. -/
theorem score_eq (hg : c.grammar = g) {i j : Nat} (hi : i ≤ c.length) (hj : j ≤ c.length)
    {x : Nat} (hx : x < g.numSymbols) (preferUnary : Bool) :
    c.score (some x) i j preferUnary =
      .ok (if preferUnary then (c.cell i j).unary.score x else (c.cell i j).binary.score x) := by
  have hrange := natCast_range hx
  rw [score, Layer.score_eq, Layer.score_eq]
  simp only [hg]
  rw [if_pos hrange, unaryItem_eq hg hi hj hrange, binaryItem_eq hg hi hj hrange]
  cases preferUnary <;> rfl

omit [Score σ]

theorem labelOf_eq (hg : c.grammar = g) {x : Symbol} (hx : 0 ≤ x ∧ x < g.numSymbols) :
    c.labelOf x = .ok (g.label x) := by
  subst hg
  obtain ⟨k, rfl⟩ := Int.eq_ofNat_of_zero_le hx.1
  have hk : k < c.grammar.vocabulary.labels.size := Int.ofNat_lt.mp hx.2
  simp [labelOf, need, Grammar.label, Vocabulary.label?, hk]

theorem wordNode_eq (hg : c.grammar = g) (hs : c.sentence = sentence) {x : Symbol}
    (hx : 0 ≤ x ∧ x < g.numSymbols) {i : Nat} {w : String} (hw : sentence[i]? = some w) :
    c.wordNode x i = .ok (.node (g.label x) [.ofWord w]) := by
  subst hs
  rw [wordNode, labelOf_eq hg hx, itemAt?_natCast, hw]
  rfl

theorem wrap_append (t : Tree) (xs ys : List Symbol) :
    c.wrap t (xs ++ ys) = (c.wrap t xs).bind fun u => c.wrap u ys := by
  induction xs generalizing t with
  | nil => rfl
  | cons x xs ih =>
    rw [List.cons_append, wrap, wrap]
    cases c.labelOf x with
    | error e => rfl
    | ok label => exact ih _

/-- Nodes are put over a tree from the lowest one up. -/
theorem wrap_reverse (hg : c.grammar = g) (t : Tree) {xs : List Symbol}
    (hx : ∀ x ∈ xs, 0 ≤ x ∧ x < g.numSymbols) :
    c.wrap t xs.reverse = .ok (xs.foldr (fun x t => .node (g.label x) [t]) t) := by
  induction xs with
  | nil => rfl
  | cons x xs ih =>
    rw [List.reverse_cons, wrap_append, ih fun y hy => hx y (by simp [hy])]
    simp only [Except.bind]
    rw [wrap, labelOf_eq hg (hx x (by simp))]
    rfl

/-- The nodes of a chain of rules are put over a tree. -/
theorem wrap_chain (hg : c.grammar = g) (hp : g.IsProper) {rs : List (UnaryRule σ)}
    (hm : ∀ r ∈ rs, r ∈ g.unary) (t : Tree) :
    c.wrap t (rs.map (·.parent)).reverse =
      .ok (rs.foldr (fun r t => .node (g.label r.parent) [t]) t) := by
  rw [wrap_reverse hg, List.foldr_map]
  intro x hx
  obtain ⟨r, hr, rfl⟩ := List.mem_map.mp hx
  exact (hp.unary r (hm r hr)).1

theorem symbolsFrom_eq {rs : List (UnaryRule σ)} {p q : Symbol} (hl : Leads p rs q) :
    symbolsFrom p rs = rs.map (·.parent) ++ [q] := by
  induction rs generalizing p with
  | nil => simp [symbolsFrom, leads_nil.mp hl]
  | cons r rs ih =>
    obtain ⟨rfl, hl⟩ := hl
    have hrs := ih hl
    simp only [symbolsFrom, List.map_cons, List.cons_append] at hrs ⊢
    rw [hrs]

end Reading

section Steps

omit [LawfulScore σ]

variable {x : Symbol} {start stop : Int} {fuel : Nat}

theorem deriveUpTo_word {preferUnary : Bool} {it : Item σ Symbol} (hwidth : stop - start = 1)
    (hitem : c.unaryItem start stop x = .ok it) (hback : it.back = none ∨ it.back = some x) :
    c.deriveUpTo (fuel + 1) x start stop preferUnary = c.wordNode x start := by
  rw [deriveUpTo, if_pos hwidth, hitem]
  rcases hback with hback | hback
  · simp only [Except.mapError, bind, Except.bind, hback]
  · simp only [Except.mapError, bind, Except.bind, hback, if_true]

theorem deriveUpTo_word_chain {preferUnary : Bool} {it : Item σ Symbol} (hwidth : stop - start = 1)
    (hitem : c.unaryItem start stop x = .ok it) {child low : Symbol} {above : List Symbol}
    (hback : it.back = some child) (hne : child ≠ x)
    (hchain : c.chainUp x child start stop = .ok (low :: above)) :
    c.deriveUpTo (fuel + 1) x start stop preferUnary =
      (c.wordNode low start).bind fun t => c.wrap t above := by
  rw [deriveUpTo, if_pos hwidth, hitem]
  simp only [Except.mapError, bind, Except.bind, hback, if_neg hne, hchain]

theorem deriveUpTo_unary {it : Item σ Symbol} (hwidth : stop - start ≠ 1)
    (hitem : c.unaryItem start stop x = .ok it) (hback : it.back = some x) :
    c.deriveUpTo (fuel + 1) x start stop true = c.deriveUpTo fuel x start stop false := by
  rw [deriveUpTo, if_neg hwidth, hitem]
  simp [Except.mapError, bind, Except.bind, hback]

theorem deriveUpTo_unary_chain {it : Item σ Symbol} (hwidth : stop - start ≠ 1)
    (hitem : c.unaryItem start stop x = .ok it) {child low : Symbol} {above : List Symbol}
    (hback : it.back = some child) (hne : child ≠ x)
    (hchain : c.chainUp x child start stop = .ok (low :: above)) :
    c.deriveUpTo (fuel + 1) x start stop true =
      (c.deriveUpTo fuel low start stop false).bind fun t => c.wrap t above := by
  rw [deriveUpTo, if_neg hwidth, hitem]
  simp only [Except.mapError, bind, Except.bind, hback, if_neg hne, hchain, if_true]

theorem deriveUpTo_binary {it : Item σ Split} (hwidth : stop - start ≠ 1)
    (hitem : c.binaryItem start stop x = .ok it) {b : Split} (hback : it.back = some b)
    {label : String} (hlabel : c.labelOf x = .ok label) {left right : Tree}
    (hleft : c.deriveUpTo fuel b.left start b.position true = .ok left)
    (hright : c.deriveUpTo fuel b.right b.position stop true = .ok right) :
    c.deriveUpTo (fuel + 1) x start stop false = .ok (.node label [left, right]) := by
  rw [deriveUpTo, if_neg hwidth, hitem]
  simp [Except.mapError, bind, Except.bind, hback, hlabel, hleft, hright, pure, Except.pure]

end Steps

namespace IsExact

variable (h : IsExact g closure scores sentence root c)

include h

/-- A derivation goes on upwards along the chain of the closure, and so does its tree. -/
theorem exists_chain_over {p q : Symbol} (hpq : p ≠ q) (hs : closure.score p q ≠ ⊥) {i j : Nat}
    {d : Derivation g scores sentence q i j} (hd : d.UsesBest) :
    ∃ (e : Derivation g scores sentence p i j) (above : List Symbol),
      e.score = closure.score p q + d.score ∧ e.UsesBest ∧
      (∀ start stop, c.chainUp p q start stop = .ok (q :: above)) ∧
      c.wrap d.tree above = .ok e.tree := by
  rcases Closure.exists_chain h.proper.unary h.unary_ne h.cycles.proper h.lists hpq with
    ⟨hbot, -⟩ | ⟨rs, hm, hbest, -, hl, -, hpath, hscore⟩
  · exact absurd hbot hs
  have hrules : ∀ r ∈ rs, r ∈ g.unary := fun r hr => (mem_properRules.mp (hm r hr)).1
  have hequal : ∀ r ∈ rs, ∀ s ∈ g.unary, s.symbols = r.symbols → s.score ≤ r.score := by
    intro r hr s hs hsym
    simp only [UnaryRule.symbols, List.cons.injEq, and_true] at hsym
    rw [← hbest r hr, ← hsym.1, ← hsym.2]
    exact le_bestRuleScore hs
  obtain ⟨e, hescore, he, hetree⟩ := d.exists_chain hrules hl hequal hd
  refine ⟨e, (rs.map (·.parent)).reverse, by rw [hescore, hscore], he, fun start stop => ?_, ?_⟩
  · rw [chainUp, h.closure_eq, hpath, symbolsFrom_eq hl]
    simp
  · rw [wrap_chain h.grammar_eq h.proper hrules, hetree]

/-- Over a word a score comes from a tag, directly or through a chain. -/
theorem rebuilds_word {i : Nat} (hi : i < sentence.length) {x : Symbol}
    (hx : 0 ≤ x ∧ x < g.numSymbols) (hs : (c.cell i (i + 1)).unary.score x ≠ ⊥) :
    Rebuilds g scores sentence c x i (i + 1) true 1 ((c.cell i (i + 1)).unary.score x) := by
  have hlen := h.length_eq
  obtain ⟨k, rfl⟩ := Int.eq_ofNat_of_zero_le hx.1
  have hk : k < g.numSymbols := Int.ofNat_lt.mp hx.2
  have hwidth : ((i + 1 : Nat) : Int) - i = 1 := by omega
  have hitem := unaryItem_eq h.grammar_eq (c := c) (i := i) (j := i + 1) (by omega) (by omega) hx
  rw [Layer.score_eq] at hs ⊢
  rcases (h.unary_word h.closure_proper hi hk).eq_or_mem with hstay | ⟨d, hd, hlt, hnew⟩
  · -- The score of the tag itself.
    rw [Int.toNat_natCast] at hs hitem ⊢
    rw [hstay] at hs hitem ⊢
    obtain ⟨w, tag, hw, htag, hscore, hfinite⟩ := tag_of_seed hi hs
    refine ⟨.word w tag _ hw htag hscore hfinite, rfl, trivial, by simp, fun fuel hfuel => ?_⟩
    obtain ⟨m, rfl⟩ := Nat.exists_eq_add_of_le' hfuel
    rw [deriveUpTo_word hwidth hitem (Or.inl (by rw [item_seeds hw])),
      wordNode_eq h.grammar_eq h.sentence_eq hx hw, Derivation.label_of_getElem? htag, Derivation.tree]
  · -- A chain down to the tag.
    obtain ⟨child, hchild, rfl⟩ := List.mem_map.mp hd
    rw [List.mem_range] at hchild
    have hne : ((k : Nat) : Symbol) ≠ child := by
      rintro heq
      obtain rfl := Int.ofNat.inj heq
      rw [chainCandidate, h.closure_proper.score_self hk, Layer.score_eq, OrderedScore.zero_add] at hlt
      exact absurd hlt (lt_irrefl _)
    rw [Int.toNat_natCast] at hs hitem ⊢
    rw [hnew] at hs hitem ⊢
    simp only [chainCandidate, Score.add_eq, ne_eq, Score.add_eq_bot, not_or, Layer.score_eq,
      Int.toNat_natCast] at hs hitem ⊢
    obtain ⟨w, tag, hw, htag, hscore, hfinite⟩ := tag_of_seed hi hs.2
    obtain ⟨e, above, hescore, he, hchain, hwrap⟩ :=
      h.exists_chain_over hne hs.1 (d := .word w tag _ hw htag hscore hfinite) trivial
    refine ⟨e, hescore, he, by simp, fun fuel hfuel => ?_⟩
    obtain ⟨m, rfl⟩ := Nat.exists_eq_add_of_le' hfuel
    rw [deriveUpTo_word_chain hwidth hitem rfl hne.symm (hchain _ _),
      wordNode_eq h.grammar_eq h.sentence_eq (natCast_range hchild) hw,
      Derivation.label_of_getElem? htag]
    exact hwrap

/-- A score of the unary layer over several words comes from the binary layer. -/
theorem rebuilds_unary {i j : Nat} (hij : i + 1 < j) (hj : j ≤ sentence.length) {x : Symbol}
    (hx : 0 ≤ x ∧ x < g.numSymbols) (hs : (c.cell i j).unary.score x ≠ ⊥) {depth : Nat}
    (hbinary : ∀ y : Symbol, 0 ≤ y ∧ y < g.numSymbols → (c.cell i j).binary.score y ≠ ⊥ →
      Rebuilds g scores sentence c y i j false depth ((c.cell i j).binary.score y)) :
    Rebuilds g scores sentence c x i j true (depth + 1) ((c.cell i j).unary.score x) := by
  have hlen := h.length_eq
  obtain ⟨k, rfl⟩ := Int.eq_ofNat_of_zero_le hx.1
  have hk : k < g.numSymbols := Int.ofNat_lt.mp hx.2
  have hwidth : (j : Int) - i ≠ 1 := by omega
  have hitem := unaryItem_eq h.grammar_eq (c := c) (i := i) (j := j) (by omega) (by omega) hx
  rw [Layer.score_eq, Int.toNat_natCast] at hs ⊢
  rw [Int.toNat_natCast] at hitem
  rcases (h.unary_span h.closure_proper hij hj hk).eq_or_mem with hstay | ⟨d, hd, -, hnew⟩
  · exact absurd Score.bottom_eq_bot (by rwa [hstay] at hs)
  obtain ⟨child, hchild, rfl⟩ := List.mem_map.mp hd
  rw [List.mem_range] at hchild
  rw [hnew] at hs hitem ⊢
  simp only [chainCandidate, Score.add_eq, ne_eq, Score.add_eq_bot, not_or] at hs hitem ⊢
  obtain ⟨d, hscore, hd, -, hderive⟩ := hbinary child (natCast_range hchild) hs.2
  by_cases hne : ((k : Nat) : Symbol) = child
  · -- The score of the layer below as it is.
    obtain rfl := Int.ofNat.inj hne
    refine ⟨d, ?_, hd, by simp, fun fuel hfuel => ?_⟩
    · rw [hscore, h.closure_proper.score_self hk, Score.zero_eq, zero_add]
    · obtain ⟨m, rfl⟩ := Nat.exists_eq_add_of_le' (Nat.le_of_add_left_le hfuel)
      rw [deriveUpTo_unary hwidth hitem rfl, hderive m (by omega)]
  · -- A chain down to a symbol of the layer below.
    obtain ⟨e, above, hescore, he, hchain, hwrap⟩ := h.exists_chain_over hne hs.1 hd
    refine ⟨e, by rw [hescore, hscore], he, by simp, fun fuel hfuel => ?_⟩
    obtain ⟨m, rfl⟩ := Nat.exists_eq_add_of_le' (Nat.le_of_add_left_le hfuel)
    rw [deriveUpTo_unary_chain hwidth hitem rfl (Ne.symm hne) (hchain _ _), hderive m (by omega)]
    exact hwrap

/-- A score of the binary layer over several words comes from the unary layers over two parts. -/
theorem rebuilds_binary {i j : Nat} (hij : i + 1 < j) (hj : j ≤ sentence.length) {x : Symbol}
    (hx : 0 ≤ x ∧ x < g.numSymbols) (hs : (c.cell i j).binary.score x ≠ ⊥) (depth : Nat)
    (hunary : ∀ (k l : Nat) (y : Symbol), k < l → l ≤ j → l - k < j - i → 0 ≤ y ∧ y < g.numSymbols →
      (c.cell k l).unary.score y ≠ ⊥ →
      Rebuilds g scores sentence c y k l true depth ((c.cell k l).unary.score y)) :
    Rebuilds g scores sentence c x i j false (depth + 1) ((c.cell i j).binary.score x) := by
  have hlen := h.length_eq
  have hk : x.toNat < g.numSymbols := (Int.toNat_lt hx.1).mpr hx.2
  have hwidth : (j : Int) - i ≠ 1 := by omega
  have hitem := binaryItem_eq h.grammar_eq (c := c) (i := i) (j := j) (by omega) (by omega) hx
  have hproper : c.grammar.IsProper := h.grammar_eq ▸ h.proper
  have hfirst := h.binary_span h.proper hij hj hk
  rw [Layer.score_eq] at hs ⊢
  rcases hfirst.eq_or_mem with hstay | ⟨d, hd, -, hnew⟩
  · exact absurd Score.bottom_eq_bot (by rwa [hstay] at hs)
  obtain ⟨hmem, hsymbol⟩ := List.mem_filter.mp hd
  obtain ⟨r, hr, split, hlo, hhi, rfl⟩ := (mem_binaryCandidates hproper).mp hmem
  rw [h.grammar_eq] at hr
  obtain ⟨hparent, hleft, hright⟩ := h.proper.binary r hr
  obtain rfl : r.parent = x := by
    rw [← Int.toNat_of_nonneg hparent.1, ← Int.toNat_of_nonneg hx.1]
    exact congrArg _ (of_decide_eq_true hsymbol)
  rw [hnew] at hs hitem hfirst ⊢
  simp only [Score.add_eq, ne_eq, Score.add_eq_bot, not_or] at hs hitem ⊢
  obtain ⟨left, hlscore, hlbest, -, hlderive⟩ :=
    hunary i split r.left hlo hhi.le (by omega) hleft hs.1.2
  obtain ⟨right, hrscore, hrbest, -, hrderive⟩ :=
    hunary split j r.right hhi le_rfl (by omega) hright hs.2
  refine ⟨.binary r hr left right, ?_, ?_, fun _ => rfl, fun fuel hfuel => ?_⟩
  · rw [Derivation.score, hlscore, hrscore]
    rfl
  · rw [Derivation.UsesBest]
    refine ⟨fun q hq hsym => ?_, hlbest, hrbest⟩
    simp only [BinaryRule.symbols, List.cons.injEq, and_true] at hsym
    have hcand := (mem_binaryCandidates hproper).mpr ⟨q, h.grammar_eq.symm ▸ hq, split, hlo, hhi, rfl⟩
    have hle := hfirst.le (List.mem_filter.mpr ⟨hcand, by simp [hsym.1]⟩)
    rw [hsym.2.1, hsym.2.2] at hle
    by_contra hlt
    have hstrict := Score.add_lt_add_right (Score.add_lt_add_right (not_le.mp hlt) hs.1.2) hs.2
    exact absurd hle (not_le.mpr hstrict)
  · obtain ⟨m, rfl⟩ := Nat.exists_eq_add_of_le' (Nat.le_of_add_left_le hfuel)
    rw [deriveUpTo_binary hwidth hitem rfl (labelOf_eq h.grammar_eq hparent) (hlderive m (by omega))
      (hrderive m (by omega)), Derivation.tree]

/-- Every score of a chart leads back to a derivation. -/
theorem rebuilds {i j : Nat} (hij : i < j) (hj : j ≤ sentence.length) :
    (∀ x : Symbol, 0 ≤ x ∧ x < g.numSymbols → (c.cell i j).unary.score x ≠ ⊥ →
      Rebuilds g scores sentence c x i j true (2 * (j - i)) ((c.cell i j).unary.score x)) ∧
    ∀ x : Symbol, 0 ≤ x ∧ x < g.numSymbols → (c.cell i j).binary.score x ≠ ⊥ →
      Rebuilds g scores sentence c x i j false (2 * (j - i) - 1) ((c.cell i j).binary.score x) := by
  induction hwidth : j - i using Nat.strong_induction_on generalizing i j with
  | h width ih =>
    rcases Nat.eq_or_lt_of_le hij with rfl | hij
    · refine ⟨fun x hx hs => (h.rebuilds_word hj hx hs).mono (by omega), fun x hx hs => ?_⟩
      rw [Layer.score_eq, h.binary_word hj] at hs
      exact absurd Score.bottom_eq_bot hs
    · have hbinary : ∀ x : Symbol, 0 ≤ x ∧ x < g.numSymbols → (c.cell i j).binary.score x ≠ ⊥ →
          Rebuilds g scores sentence c x i j false (2 * width - 1)
            ((c.cell i j).binary.score x) := fun x hx hs => by
        have hparts := h.rebuilds_binary hij hj hx hs (2 * width - 2)
          fun k l y hkl hl hlt hy hs => by
            refine ((ih (l - k) (by omega) hkl (by omega) rfl).1 y hy hs).mono (by omega)
        exact hparts.mono (by omega)
      exact ⟨fun x hx hs => (h.rebuilds_unary hij hj hx hs hbinary).mono (by omega), hbinary⟩

/-- Every score over a span is the one of a derivation that is rebuilt. -/
theorem exists_derive {i j x : Nat} (hj : j ≤ sentence.length) (hx : x < g.numSymbols)
    (preferUnary : Bool) {s : σ}
    (hs : (if preferUnary then (c.cell i j).unary.score x else (c.cell i j).binary.score x) = s)
    (hne : s ≠ ⊥) :
    ∃ d : Derivation g scores sentence x i j, c.derive x i j preferUnary = .ok d.tree ∧
      d.score = s ∧ d.UsesBest ∧ (preferUnary = false → d.isBinary = true) := by
  have hlen := h.length_eq
  subst hs
  rcases Nat.lt_or_ge i j with hij | hij
  · have hrange := natCast_range hx
    have hdepth : 2 * (j - i) ≤ c.depthBound := by
      unfold depthBound
      omega
    cases preferUnary with
    | true =>
      obtain ⟨d, hscore, hd, htop, hderive⟩ := (h.rebuilds hij hj).1 x hrange hne
      exact ⟨d, hderive _ hdepth, hscore, hd, htop⟩
    | false =>
      obtain ⟨d, hscore, hd, htop, hderive⟩ := (h.rebuilds hij hj).2 x hrange hne
      exact ⟨d, hderive _ (by omega), hscore, hd, htop⟩
  · obtain ⟨hunary, hbinary⟩ := h.score_outside hij hj x
    cases preferUnary <;> simp_all

end IsExact

/-- Rebuilding a derivation of what has a score never fails: it leads to the tree of a derivation with
this score, which is rooted in the symbol, has the words of the span as its leaves, and uses the best
ones of several equal rules. So the best tree is always found, and it has the words of the sentence as
its leaves if there is a parse. -/
theorem derive_eq_tree {σ ε : Type} [Score σ] [LawfulScore σ] (v : Vocabulary)
    (binary : List (BinaryRule σ)) (unary : List (UnaryRule σ)) (g : Grammar σ)
    (hg : Grammar.ofRules? v binary unary = .ok g) (hb : ∀ r ∈ g.binary, r.score ≠ Score.bottom)
    (hu : ∀ r ∈ g.unary, r.score ≠ Score.bottom) (hc : NoPositiveCycle g.unary) (closure : Closure σ)
    (hcl : Closure.ofRules? g.numSymbols g.unary = .ok closure)
    (lexicon : String → String → Except ε (Option σ)) (scores : String → String → Option σ)
    (sentence : List String) (hlex : Answers g.vocabulary lexicon sentence scores) (root : String) :
    ∃ c, parse g closure lexicon sentence root = .ok c ∧
      (∀ (i j x : Nat) (preferUnary : Bool) (s : σ), i ≤ sentence.length → j ≤ sentence.length →
        x < g.numSymbols → c.score (some x) i j preferUnary = .ok s → s ≠ Score.bottom →
        ∃ d : Derivation g scores sentence x i j, c.derive x i j preferUnary = .ok d.tree ∧
          d.tree.label? = some (g.label x) ∧ d.tree.leaves = ((sentence.take j).drop i).map some ∧
          d.score = s ∧ d.UsesBest ∧ (preferUnary = false → d.isBinary = true)) ∧
      (c.hasParse = true → ∃ t, c.bestTree = .ok t ∧ t.leaves = sentence.map some) ∧
      (c.hasParse = false → c.bestTree = .ok (failureTree root)) := by
  obtain ⟨c, hparse, h⟩ := exists_isExact hg hcl hb hu hc hlex root
  have hlen := h.length_eq
  refine ⟨c, hparse, fun i j x preferUnary s hi hj hx hs hne => ?_, fun hroot => ?_, fun hroot => ?_⟩
  · rw [score_eq h.grammar_eq (by omega) (by omega) hx] at hs
    obtain ⟨d, hderive, hscore, hd, htop⟩ := h.exists_derive hj hx preferUnary (Except.ok.inj hs) hne
    exact ⟨d, hderive, d.label?_tree, d.leaves_tree, hscore, hd, htop⟩
  · have hfinite := hroot
    rw [hasParse, rootScore, h.rootSymbol?_eq, Score.isFinite_eq_true] at hfinite
    cases hx : g.vocabulary.find? root with
    | none => simp [hx, Score.bottom_eq_bot] at hfinite
    | some x =>
      simp only [hx, Option.map_some, hlen] at hfinite
      obtain ⟨d, hderive, -⟩ :=
        h.exists_derive le_rfl (IsExact.lt_of_find? hx) true rfl hfinite
      refine ⟨d.tree.unannotate, ?_, ?_⟩
      · rw [bestTree, hroot, h.rootSymbol?_eq, hx, hlen]
        exact congrArg (Except.map Tree.unannotate) hderive
      · rw [Tree.leaves_unannotate, d.leaves_tree]
        simp
  · rw [bestTree, hroot, h.root_eq]

theorem derive_eq_tree_tiny : ∃ closure c,
    Grammar.ofRules? tinyGrammar.vocabulary tinyGrammar.binary tinyGrammar.unary = .ok tinyGrammar ∧
    (∀ r ∈ tinyGrammar.binary, r.score ≠ Score.bottom) ∧
    (∀ r ∈ tinyGrammar.unary, r.score ≠ Score.bottom) ∧ NoPositiveCycle tinyGrammar.unary ∧
    Closure.ofRules? tinyGrammar.numSymbols tinyGrammar.unary = .ok closure ∧
    Answers tinyGrammar.vocabulary tinyLexicon ["b", "b"] tinyScores ∧
    parse tinyGrammar closure tinyLexicon ["b", "b"] "S" = .ok c ∧
    ∃ t, c.bestTree = .ok t ∧ t.leaves = [some "b", some "b"] := by
  have hb : ∀ r ∈ tinyGrammar.binary, r.score ≠ Score.bottom := by decide
  have hu : ∀ r ∈ tinyGrammar.unary, r.score ≠ Score.bottom := by decide
  obtain ⟨closure, hcl⟩ := exists_tinyClosure
  obtain ⟨c, hparse, -, hbest, -⟩ := derive_eq_tree tinyGrammar.vocabulary tinyGrammar.binary
    tinyGrammar.unary tinyGrammar ofRules?_tinyGrammar hb hu noPositiveCycle_tinyGrammar closure hcl
    tinyLexicon tinyScores ["b", "b"] (answers_tinyLexicon _) "S"
  exact ⟨closure, c, ofRules?_tinyGrammar, hb, hu, noPositiveCycle_tinyGrammar, hcl,
    answers_tinyLexicon _, hparse, hbest (hasParse_tiny hcl hparse)⟩

end Constituency.Chart
