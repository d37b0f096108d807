import Constituency.Proofs.Chart.Derivations
import Constituency.Proofs.Vocabulary

/-!
# Scores as bounds

No derivation is better than the score of its symbol in a finished chart. The layers hold at least what
a rule makes of the scores they are based on (`add_le_binary`, `add_le_unary`), and from that the bound
follows by induction on the derivation (`score_le`): a unary rule over a best chain is a chain again.
-/
namespace Constituency.Chart

variable {σ : Type} [Score σ] [LawfulScore σ]

/-- A finished chart in exact numbers, with the closure of the unary rules of its grammar, of which no
cycle has a positive total. -/
structure IsExact (g : Grammar σ) (closure : Closure σ) (scores : String → String → Option σ)
    (sentence : List String) (root : String) (c : Chart σ) : Prop
    extends IsFinished g closure scores sentence root c where
  proper : g.IsProper
  lists : Closure.Lists g.numSymbols g.unary closure
  closure_proper : closure.IsProper g.numSymbols
  binary_ne : ∀ r ∈ g.binary, r.score ≠ ⊥
  unary_ne : ∀ r ∈ g.unary, r.score ≠ ⊥
  cycles : NoPositiveCycle g.unary

variable {g : Grammar σ} {closure : Closure σ} {scores : String → String → Option σ}
  {sentence : List String} {root : String} {c : Chart σ}

/-- The parser leads to a finished chart in exact numbers. -/
theorem exists_isExact {ε : Type} {v : Vocabulary} {binary : List (BinaryRule σ)}
    {unary : List (UnaryRule σ)} (hg : Grammar.ofRules? v binary unary = .ok g)
    (hcl : Closure.ofRules? g.numSymbols g.unary = .ok closure) (hb : ∀ r ∈ g.binary, r.score ≠ ⊥)
    (hu : ∀ r ∈ g.unary, r.score ≠ ⊥) (hc : NoPositiveCycle g.unary)
    {lexicon : String → String → Except ε (Option σ)}
    (hlex : Answers g.vocabulary lexicon sentence scores) (root : String) :
    ∃ c, parse g closure lexicon sentence root = .ok c ∧
      IsExact g closure scores sentence root c := by
  obtain ⟨-, hproper⟩ := Grammar.isProper_of_ofRules? hg
  exact ⟨_, parse_eq_fill hlex closure root, isFinished_fill g closure scores sentence root, hproper,
    Closure.lists_of_ofRules? hcl, Closure.isProper_of_ofRules? hproper.unary hcl, hb, hu, hc⟩

omit [Score σ] [LawfulScore σ] in
theorem natCast_range {k n : Nat} (hk : k < n) : (0 : Symbol) ≤ k ∧ (k : Symbol) < n :=
  ⟨Int.natCast_nonneg k, Int.ofNat_lt.mpr hk⟩

namespace IsExact

omit [Score σ] [LawfulScore σ] in
theorem lt_of_find? {x : Nat} (hx : g.vocabulary.find? root = some x) : x < g.numSymbols :=
  Vocabulary.lt_size_of_find? hx

variable (h : IsExact g closure scores sentence root c)

include h

theorem score_outside {i j : Nat} (hij : j ≤ i) (hj : j ≤ sentence.length) (x : Symbol) :
    (c.cell i j).unary.score x = ⊥ ∧ (c.cell i j).binary.score x = ⊥ := by
  rw [h.outside i j hij hj, Cell.empty, Layer.score_eq, Layer.score_eq, Layer.item_empty,
    Layer.item_empty]
  exact ⟨rfl, rfl⟩

/-- Over several words a binary rule derives no more than the score of its parent. -/
theorem add_le_binary {i k j : Nat} (hik : i < k) (hkj : k < j) (hj : j ≤ sentence.length)
    {r : BinaryRule σ} (hr : r ∈ g.binary) :
    r.score + (c.cell i k).unary.score r.left + (c.cell k j).unary.score r.right ≤
      (c.cell i j).binary.score r.parent := by
  obtain ⟨hparent, -⟩ := h.proper.binary r hr
  have hlt : r.parent.toNat < g.numSymbols := (Int.toNat_lt hparent.1).mpr hparent.2
  have hcand := (mem_binaryCandidates (h.grammar_eq.symm ▸ h.proper)).mpr
    ⟨r, h.grammar_eq.symm ▸ hr, k, hik, hkj, rfl⟩
  rw [Layer.score_eq _ r.parent]
  exact (h.binary_span h.proper (by omega) hj hlt).le (List.mem_filter.mpr ⟨hcand, by simp⟩)

/-- The scores to which the closure is applied over a span. -/
def source (g : Grammar σ) (scores : String → String → Option σ) (sentence : List String)
    (c : Chart σ) (i j : Nat) (x : Symbol) : σ :=
  if j = i + 1 then (seeds g.vocabulary scores sentence i).score x else (c.cell i j).binary.score x

/-- The unary layer holds at least what chains derive from the layer below it. -/
theorem chain_le_unary {i j : Nat} (hij : i < j) (hj : j ≤ sentence.length) {x child : Nat}
    (hx : x < g.numSymbols) (hchild : child < g.numSymbols) :
    closure.score x child + source g scores sentence c i j child ≤ (c.cell i j).unary.score x := by
  rw [Layer.score_eq, Int.toNat_natCast]
  have hmem : ∀ f : Nat → Candidate σ Symbol, f child ∈ (List.range g.numSymbols).map f :=
    fun f => List.mem_map_of_mem (List.mem_range.mpr hchild)
  unfold source
  split_ifs with hword
  · subst hword
    exact (h.unary_word h.closure_proper hj hx).le (hmem _)
  · have hwide : i + 1 < j := by omega
    exact (h.unary_span h.closure_proper hwide hj hx).le (hmem _)

/-- A score of the unary layer is that of a chain and of a score of the layer below it. -/
theorem exists_chain_eq_unary {i j : Nat} (hij : i < j) (hj : j ≤ sentence.length) {x : Nat}
    (hx : x < g.numSymbols) (hs : (c.cell i j).unary.score x ≠ ⊥) :
    ∃ child < g.numSymbols, (c.cell i j).unary.score x =
      closure.score x child + source g scores sentence c i j child := by
  rw [Layer.score_eq, Int.toNat_natCast] at hs ⊢
  unfold source
  split_ifs with hword
  · subst hword
    rcases (h.unary_word h.closure_proper hj hx).eq_or_mem with hstay | ⟨d, hd, -, hnew⟩
    · refine ⟨x, hx, ?_⟩
      rw [hstay, h.closure_proper.score_self hx, Score.zero_eq, zero_add, Layer.score_eq,
        Int.toNat_natCast]
    · obtain ⟨child, hchild, rfl⟩ := List.mem_map.mp hd
      exact ⟨child, List.mem_range.mp hchild, by rw [hnew]; rfl⟩
  · have hwide : i + 1 < j := by omega
    rcases (h.unary_span h.closure_proper hwide hj hx).eq_or_mem with hstay | ⟨d, hd, -, hnew⟩
    · exact absurd Score.bottom_eq_bot (by rwa [hstay] at hs)
    · obtain ⟨child, hchild, rfl⟩ := List.mem_map.mp hd
      exact ⟨child, List.mem_range.mp hchild, by rw [hnew]; rfl⟩

/-- The empty chain: the unary layer holds at least what is in the layer below it. -/
theorem source_le_unary {i j : Nat} (hij : i < j) (hj : j ≤ sentence.length) {x : Symbol}
    (hx : 0 ≤ x ∧ x < g.numSymbols) :
    source g scores sentence c i j x ≤ (c.cell i j).unary.score x := by
  obtain ⟨k, rfl⟩ := Int.eq_ofNat_of_zero_le hx.1
  have hk : k < g.numSymbols := Int.ofNat_lt.mp hx.2
  have hself := h.chain_le_unary hij hj hk hk
  rwa [h.closure_proper.score_self hk, Score.zero_eq, zero_add] at hself

/-- A unary rule derives no more than the score of its parent. -/
theorem add_le_unary {i j : Nat} (hij : i < j) (hj : j ≤ sentence.length) {r : UnaryRule σ}
    (hr : r ∈ g.unary) :
    r.score + (c.cell i j).unary.score r.child ≤ (c.cell i j).unary.score r.parent := by
  obtain ⟨hparent, hchild⟩ := h.proper.unary r hr
  by_cases hbot : (c.cell i j).unary.score r.child = ⊥
  · rw [hbot, Score.add_bot]
    exact bot_le
  obtain ⟨k, hk⟩ := Int.eq_ofNat_of_zero_le hchild.1
  obtain ⟨p, hp⟩ := Int.eq_ofNat_of_zero_le hparent.1
  rw [hk] at hbot hchild
  rw [hp] at hparent
  obtain ⟨low, hlow, heq⟩ := h.exists_chain_eq_unary hij hj (Int.ofNat_lt.mp hchild.2) hbot
  have hrule := Closure.add_score_le h.proper.unary h.unary_ne h.cycles h.lists hr (natCast_range hlow)
  rw [hk, hp] at hrule
  rw [hk, hp, heq, ← add_assoc]
  calc r.score + closure.score k low + source g scores sentence c i j low
      ≤ closure.score p low + source g scores sentence c i j low := by gcongr
    _ ≤ (c.cell i j).unary.score p := h.chain_le_unary hij hj (Int.ofNat_lt.mp hparent.2) hlow

/-- No derivation is better than the score of its symbol. -/
theorem score_le {x : Symbol} {i j : Nat} (d : Derivation g scores sentence x i j) :
    d.score ≤ (c.cell i j).unary.score x ∧
      (d.isBinary = true → d.score ≤ (c.cell i j).binary.score x) := by
  induction d with
  | @word i x w tag s hw htag hs hfinite =>
    have hi : i < sentence.length := (List.getElem?_eq_some_iff.mp hw).1
    have hx : x < g.numSymbols := (Array.getElem?_eq_some_iff.mp htag).1
    have hle := h.source_le_unary (Nat.lt_succ_self i) hi (natCast_range hx)
    rw [source, if_pos rfl, Layer.score_eq, item_seeds hw, Int.toNat_natCast, htag] at hle
    refine ⟨?_, by simp [Derivation.isBinary]⟩
    simpa [Derivation.score, hs, tagScore, Score.isFinite_eq_true.mp hfinite] using hle
  | unary r hr below ih =>
    obtain ⟨hij, hj⟩ := below.lt_and_le
    refine ⟨?_, by simp [Derivation.isBinary]⟩
    calc r.score + below.score ≤ r.score + _ := add_le_add_right ih.1 _
      _ ≤ _ := h.add_le_unary hij hj hr
  | @binary i k j r hr left right ihl ihr =>
    obtain ⟨hik, -⟩ := left.lt_and_le
    obtain ⟨hkj, hj⟩ := right.lt_and_le
    have hbinary : r.score + left.score + right.score ≤ (c.cell i j).binary.score r.parent :=
      (add_le_add (add_le_add_right ihl.1 _) ihr.1).trans (h.add_le_binary hik hkj hj hr)
    refine ⟨hbinary.trans ?_, fun _ => hbinary⟩
    have hle := h.source_le_unary (hik.trans hkj) hj (h.proper.binary r hr).1
    rwa [source, if_neg (by omega)] at hle

end IsExact

/-- The tiny grammar has a parse of two words. -/
theorem hasParse_tiny {closure : Closure ExactScore} {c : Chart ExactScore}
    (hcl : Closure.ofRules? tinyGrammar.numSymbols tinyGrammar.unary = .ok closure)
    (hparse : parse tinyGrammar closure tinyLexicon ["b", "b"] "S" = .ok c) : c.hasParse = true := by
  obtain ⟨c', hparse', h⟩ := exists_isExact ofRules?_tinyGrammar hcl (by decide) (by decide)
    noPositiveCycle_tinyGrammar (answers_tinyLexicon ["b", "b"]) "S"
  obtain rfl := Except.ok.inj (hparse.symm.trans hparse')
  have hroot : c.rootSymbol? = some 0 := by
    rw [h.rootSymbol?_eq]
    rfl
  have hscore : tinyDerivation.score ≠ ⊥ := by decide
  rw [hasParse, rootScore, hroot, h.length_eq, Score.isFinite_eq_true]
  exact fun hbot => hscore (le_bot_iff.mp (hbot ▸ (h.score_le tinyDerivation).1))

end Constituency.Chart
