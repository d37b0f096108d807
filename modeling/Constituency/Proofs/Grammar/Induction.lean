import Constituency.Proofs.Chart.Derivations
import Constituency.Proofs.Grammar.Productions

/-!
# The rules of an induced grammar

The rules of a grammar that is read off trees are the productions at their nodes, each one once
(`exists_unary`, `unary_inj`), and its score is that of the number of its occurrences among those of all
rules with the same parent.
-/
namespace Constituency

variable {σ : Type}

/-- The label of the parent of a rule. -/
def Production.ruleParent? : Production → Option String
  | tag _ => none
  | unary l _ => some l
  | binary l _ _ => some l

/-- The production of a rule. -/
def UnaryRule.production (g : Grammar σ) (r : UnaryRule σ) : Production :=
  .unary (g.label r.parent) (g.label r.child)

/-- The production of a rule. -/
def BinaryRule.production (g : Grammar σ) (r : BinaryRule σ) : Production :=
  .binary (g.label r.parent) (g.label r.left) (g.label r.right)

/-- A grammar whose rules are the productions of a list, scored by their occurrences. -/
structure IsInduced (score : Nat → Nat → σ) (qs : List Production) (g : Grammar σ) : Prop where
  proper : g.IsProper
  nodup : g.vocabulary.labels.toList.Nodup
  size_le : g.numSymbols ≤ 3 * qs.length
  knows : ∀ q ∈ qs, ∀ l ∈ q.labels, g.vocabulary.Knows l
  unary_mem : ∀ r ∈ g.unary, r.production g ∈ qs
  unary_score : ∀ r ∈ g.unary, r.score = score (qs.count (r.production g))
    (qs.countP fun q => q.ruleParent? = some (g.label r.parent))
  exists_unary : ∀ l m, .unary l m ∈ qs → ∃ r ∈ g.unary, r.production g = .unary l m
  binary_mem : ∀ r ∈ g.binary, r.production g ∈ qs
  binary_score : ∀ r ∈ g.binary, r.score = score (qs.count (r.production g))
    (qs.countP fun q => q.ruleParent? = some (g.label r.parent))
  exists_binary : ∀ l m n, .binary l m n ∈ qs → ∃ r ∈ g.binary, r.production g = .binary l m n

section Labels

variable {g : Grammar σ} {l : String} {x y : Symbol}

theorem label_of_symbol? (h : Production.symbol? g.vocabulary l = some x) : g.label x = l := by
  obtain ⟨i, hi, rfl⟩ := Option.map_eq_some_iff.mp h
  have hlabel := Vocabulary.getElem?_of_find? hi
  simp [Grammar.label, Vocabulary.label?, hlabel]

theorem symbol?_label (hnodup : g.vocabulary.labels.toList.Nodup)
    (hx : 0 ≤ x ∧ x < g.numSymbols) : Production.symbol? g.vocabulary (g.label x) = some x := by
  obtain ⟨i, rfl⟩ := Int.eq_ofNat_of_zero_le hx.1
  have hi : i < g.vocabulary.labels.size := Int.ofNat_lt.mp hx.2
  have hlabel : g.vocabulary.labels[i]? = some (g.label i) := by
    simp [Grammar.label, Vocabulary.label?, hi]
  rw [Production.symbol?, Vocabulary.find?_of_getElem? hnodup hlabel]
  rfl

theorem symbol?_eq_some_iff (hnodup : g.vocabulary.labels.toList.Nodup)
    (hx : 0 ≤ x ∧ x < g.numSymbols) :
    Production.symbol? g.vocabulary l = some x ↔ l = g.label x := by
  constructor
  · intro h
    exact (label_of_symbol? h).symm
  · rintro rfl
    exact symbol?_label hnodup hx

theorem label_inj (hnodup : g.vocabulary.labels.toList.Nodup) (hx : 0 ≤ x ∧ x < g.numSymbols)
    (hy : 0 ≤ y ∧ y < g.numSymbols) (h : g.label x = g.label y) : x = y := by
  have hsame := symbol?_label hnodup hx
  rw [h, symbol?_label hnodup hy] at hsame
  exact (Option.some.inj hsame).symm

end Labels

namespace Production

theorem exists_symbol? {v : Vocabulary} {l : String} (h : v.Knows l) : ∃ a, symbol? v l = some a := by
  obtain ⟨i, hi⟩ := Vocabulary.exists_find? h
  exact ⟨Int.ofNat i, by rw [symbol?, hi, Option.map_some]⟩

variable {g : Grammar σ} (hnodup : g.vocabulary.labels.toList.Nodup) {a b c : Symbol}
  (ha : 0 ≤ a ∧ a < g.numSymbols) (hb : 0 ≤ b ∧ b < g.numSymbols) (hc : 0 ≤ c ∧ c < g.numSymbols)

include hnodup ha

theorem parent?_iff (q : Production) :
    q.parent? g.vocabulary = some a ↔ q.ruleParent? = some (g.label a) := by
  cases q with
  | tag l => simp [parent?, ruleParent?]
  | unary l m => simp [parent?, ruleParent?, symbol?_eq_some_iff hnodup ha]
  | binary l m n => simp [parent?, ruleParent?, symbol?_eq_some_iff hnodup ha]

include hb

theorem unaryKey?_iff (q : Production) :
    q.unaryKey? g.vocabulary = some (a, b) ↔ q = .unary (g.label a) (g.label b) := by
  cases q with
  | tag l => simp [unaryKey?]
  | unary l m =>
    simp [unaryKey?, Option.bind_eq_some_iff, symbol?_eq_some_iff hnodup ha,
      symbol?_eq_some_iff hnodup hb, ← and_assoc]
  | binary l m n => simp [unaryKey?]

include hc

theorem binaryKey?_iff (q : Production) :
    q.binaryKey? g.vocabulary = some (a, b, c) ↔
      q = .binary (g.label a) (g.label b) (g.label c) := by
  cases q with
  | tag l => simp [binaryKey?]
  | unary l m => simp [binaryKey?]
  | binary l m n =>
    simp [binaryKey?, Option.bind_eq_some_iff, symbol?_eq_some_iff hnodup ha,
      symbol?_eq_some_iff hnodup hb, symbol?_eq_some_iff hnodup hc, ← and_assoc]

end Production

namespace Productions

variable {v : Vocabulary} {qs : List Production} {p : Productions} {score : Nat → Nat → σ}

theorem mem_unaryRules (h : Counted v qs p) {r : UnaryRule σ} :
    r ∈ p.unaryRules score ↔ 0 < p.unary.count (r.parent, r.child) ∧
      r.score = score (p.unary.count (r.parent, r.child)) (p.parents.count r.parent) := by
  obtain ⟨parent, child, s⟩ := r
  simp only [unaryRules, List.mem_map, UnaryRule.mk.injEq]
  constructor
  · rintro ⟨⟨⟨a, b⟩, n⟩, he, rfl, rfl, rfl⟩
    obtain ⟨hpos, hcount⟩ : 0 < n ∧ p.unary.count (a, b) = n := h.isCounted_unary.mem_entries.mp he
    rw [hcount]
    exact ⟨hpos, rfl⟩
  · rintro ⟨hpos, rfl⟩
    exact ⟨((parent, child), _), h.isCounted_unary.mem_entries.mpr ⟨hpos, rfl⟩, rfl, rfl, rfl⟩

theorem mem_binaryRules (h : Counted v qs p) {r : BinaryRule σ} :
    r ∈ p.binaryRules score ↔ 0 < p.binary.count (r.parent, r.left, r.right) ∧
      r.score = score (p.binary.count (r.parent, r.left, r.right)) (p.parents.count r.parent) := by
  obtain ⟨parent, left, right, s⟩ := r
  simp only [binaryRules, List.mem_map, BinaryRule.mk.injEq]
  constructor
  · rintro ⟨⟨⟨a, b, c⟩, n⟩, he, rfl, rfl, rfl, rfl⟩
    obtain ⟨hpos, hcount⟩ : 0 < n ∧ p.binary.count (a, b, c) = n :=
      h.isCounted_binary.mem_entries.mp he
    rw [hcount]
    exact ⟨hpos, rfl⟩
  · rintro ⟨hpos, rfl⟩
    exact ⟨((parent, left, right), _), h.isCounted_binary.mem_entries.mpr ⟨hpos, rfl⟩, rfl, rfl, rfl,
      rfl⟩

/-- The symbols of a unary production that has been counted are those of a rule. -/
theorem exists_unaryKey? (h : Counted v qs p) {l m : String} (hq : .unary l m ∈ qs) :
    ∃ a b, Production.symbol? p.vocabulary l = some a ∧ Production.symbol? p.vocabulary m = some b ∧
      0 < p.unary.count (a, b) := by
  obtain ⟨a, ha⟩ := Production.exists_symbol? (h.knows _ hq l (by simp [Production.labels]))
  obtain ⟨b, hb⟩ := Production.exists_symbol? (h.knows _ hq m (by simp [Production.labels]))
  refine ⟨a, b, ha, hb, ?_⟩
  rw [h.unary, List.countP_pos_iff]
  exact ⟨_, hq, by simp [Production.unaryKey?, ha, hb]⟩

theorem exists_binaryKey? (h : Counted v qs p) {l m n : String} (hq : .binary l m n ∈ qs) :
    ∃ a b c, Production.symbol? p.vocabulary l = some a ∧
      Production.symbol? p.vocabulary m = some b ∧ Production.symbol? p.vocabulary n = some c ∧
      0 < p.binary.count (a, b, c) := by
  obtain ⟨a, ha⟩ := Production.exists_symbol? (h.knows _ hq l (by simp [Production.labels]))
  obtain ⟨b, hb⟩ := Production.exists_symbol? (h.knows _ hq m (by simp [Production.labels]))
  obtain ⟨c, hc⟩ := Production.exists_symbol? (h.knows _ hq n (by simp [Production.labels]))
  refine ⟨a, b, c, ha, hb, hc, ?_⟩
  rw [h.binary, List.countP_pos_iff]
  exact ⟨_, hq, by simp [Production.binaryKey?, ha, hb, hc]⟩

section Counts

variable {g : Grammar σ} (h : Counted v qs p) (hvoc : g.vocabulary = p.vocabulary)
  (hnodup : g.vocabulary.labels.toList.Nodup) {a b c : Symbol}
  (ha : 0 ≤ a ∧ a < g.numSymbols) (hb : 0 ≤ b ∧ b < g.numSymbols) (hc : 0 ≤ c ∧ c < g.numSymbols)

include h hvoc hnodup ha

theorem count_parents_eq : p.parents.count a =
    qs.countP fun q => q.ruleParent? = some (g.label a) := by
  rw [h.parents, ← hvoc]
  refine List.countP_congr fun q _ => ?_
  rw [decide_eq_true_eq, decide_eq_true_eq, Production.parent?_iff hnodup ha]

include hb

theorem count_unary_eq : p.unary.count (a, b) = qs.count (.unary (g.label a) (g.label b)) := by
  rw [h.unary, ← hvoc, List.count_eq_countP]
  refine List.countP_congr fun q _ => ?_
  rw [decide_eq_true_eq, Production.unaryKey?_iff hnodup ha hb, beq_iff_eq]

include hc

theorem count_binary_eq : p.binary.count (a, b, c) =
    qs.count (.binary (g.label a) (g.label b) (g.label c)) := by
  rw [h.binary, ← hvoc, List.count_eq_countP]
  refine List.countP_congr fun q _ => ?_
  rw [decide_eq_true_eq, Production.binaryKey?_iff hnodup ha hb hc, beq_iff_eq]

end Counts

section Scored

variable {g : Grammar σ} (h : Counted v qs p) (hv : v.labels.toList.Nodup) (hg : p.grammar? score = .ok g)

include h hv hg

/-- A rule of the grammar has been counted, and its score is that of the counts. -/
theorem unary_scored : ∀ r ∈ g.unary, 0 < qs.count (r.production g) ∧
    r.score = score (qs.count (r.production g))
      (qs.countP fun q => q.ruleParent? = some (g.label r.parent)) := by
  obtain ⟨heq, hproper⟩ := Grammar.isProper_of_ofRules? hg
  have hvoc : g.vocabulary = p.vocabulary := by rw [heq]
  have hunary : g.unary = p.unaryRules score := by rw [heq]
  have hnodup : g.vocabulary.labels.toList.Nodup := hvoc ▸ h.nodup hv
  intro r hr
  obtain ⟨ha, hb⟩ := hproper.unary r hr
  rw [hunary, mem_unaryRules h, count_unary_eq h hvoc hnodup ha hb, count_parents_eq h hvoc hnodup ha] at hr
  exact hr

theorem binary_scored : ∀ r ∈ g.binary, 0 < qs.count (r.production g) ∧
    r.score = score (qs.count (r.production g))
      (qs.countP fun q => q.ruleParent? = some (g.label r.parent)) := by
  obtain ⟨heq, hproper⟩ := Grammar.isProper_of_ofRules? hg
  have hvoc : g.vocabulary = p.vocabulary := by rw [heq]
  have hbinary : g.binary = p.binaryRules score := by rw [heq]
  have hnodup : g.vocabulary.labels.toList.Nodup := hvoc ▸ h.nodup hv
  intro r hr
  obtain ⟨ha, hb, hc⟩ := hproper.binary r hr
  rw [hbinary, mem_binaryRules h, count_binary_eq h hvoc hnodup ha hb hc,
    count_parents_eq h hvoc hnodup ha] at hr
  exact hr

end Scored

/-- The grammar of counted productions. -/
theorem isInduced (h : Counted .empty qs p) {g : Grammar σ}
    (hg : p.grammar? score = .ok g) : IsInduced score qs g := by
  obtain ⟨heq, hproper⟩ := Grammar.isProper_of_ofRules? hg
  have hvoc : g.vocabulary = p.vocabulary := by rw [heq]
  have hbinary : g.binary = p.binaryRules score := by rw [heq]
  have hunary : g.unary = p.unaryRules score := by rw [heq]
  have hnodup : g.vocabulary.labels.toList.Nodup := hvoc ▸ h.nodup List.nodup_nil
  have hsize : g.numSymbols ≤ 3 * qs.length := by
    have hle := h.size_le
    rw [Grammar.numSymbols, hvoc]
    simpa [Vocabulary.empty, Vocabulary.size] using hle
  have hu := unary_scored h List.nodup_nil hg
  have hb := binary_scored h List.nodup_nil hg
  refine ⟨hproper, hnodup, hsize, hvoc ▸ h.knows, fun r hr => List.count_pos_iff.mp (hu r hr).1,
    fun r hr => (hu r hr).2, fun l m hq => ?_, fun r hr => List.count_pos_iff.mp (hb r hr).1,
    fun r hr => (hb r hr).2, fun l m n hq => ?_⟩
  · obtain ⟨a, b, ha, hb, hpos⟩ := exists_unaryKey? h hq
    rw [← hvoc] at ha hb
    refine ⟨⟨a, b, score (p.unary.count (a, b)) (p.parents.count a)⟩,
      hunary ▸ (mem_unaryRules h).mpr ⟨hpos, rfl⟩, ?_⟩
    rw [UnaryRule.production, label_of_symbol? ha, label_of_symbol? hb]
  · obtain ⟨a, b, c, ha, hb, hc, hpos⟩ := exists_binaryKey? h hq
    rw [← hvoc] at ha hb hc
    refine ⟨⟨a, b, c, score (p.binary.count (a, b, c)) (p.parents.count a)⟩,
      hbinary ▸ (mem_binaryRules h).mpr ⟨hpos, rfl⟩, ?_⟩
    rw [BinaryRule.production, label_of_symbol? ha, label_of_symbol? hb, label_of_symbol? hc]

theorem isSymbol_of_symbol? {l : String} {a : Symbol} (h : Production.symbol? v l = some a) :
    Grammar.isSymbol v a = true := by
  obtain ⟨i, hi, rfl⟩ := Option.map_eq_some_iff.mp h
  simpa [Grammar.isSymbol] using Vocabulary.lt_size_of_find? hi

theorem all_isSymbol_unary {r : UnaryRule σ} {q : Production}
    (h : q.unaryKey? v = some (r.parent, r.child)) : r.symbols.all (Grammar.isSymbol v) = true := by
  cases q with
  | tag l => exact absurd h (by simp [Production.unaryKey?])
  | unary l m =>
    simp only [Production.unaryKey?, Option.bind_eq_some_iff, Option.map_eq_some_iff,
      Prod.mk.injEq] at h
    obtain ⟨a, ha, b, hb, rfl, rfl⟩ := h
    simp [UnaryRule.symbols, isSymbol_of_symbol? ha, isSymbol_of_symbol? hb]
  | binary l m n => exact absurd h (by simp [Production.unaryKey?])

theorem all_isSymbol_binary {r : BinaryRule σ} {q : Production}
    (h : q.binaryKey? v = some (r.parent, r.left, r.right)) :
    r.symbols.all (Grammar.isSymbol v) = true := by
  cases q with
  | tag l => exact absurd h (by simp [Production.binaryKey?])
  | unary l m => exact absurd h (by simp [Production.binaryKey?])
  | binary l m n =>
    simp only [Production.binaryKey?, Option.bind_eq_some_iff, Option.map_eq_some_iff,
      Prod.mk.injEq] at h
    obtain ⟨a, ha, b, hb, c, hc, rfl, rfl, rfl⟩ := h
    simp [BinaryRule.symbols, isSymbol_of_symbol? ha, isSymbol_of_symbol? hb, isSymbol_of_symbol? hc]

/-- Counted rules have symbols of the vocabulary, so none of them is refused. -/
theorem exists_grammar? (h : Counted v qs p) (score : Nat → Nat → σ) :
    ∃ g, p.grammar? score = .ok g := by
  have hbinary : ((p.binaryRules score).find? fun r => !r.symbols.all (Grammar.isSymbol p.vocabulary)) =
      none := by
    rw [List.find?_eq_none]
    intro r hr
    have hpos := ((mem_binaryRules h).mp hr).1
    rw [h.binary, List.countP_pos_iff] at hpos
    obtain ⟨q, -, hq⟩ := hpos
    simp [all_isSymbol_binary (of_decide_eq_true hq)]
  have hunary : ((p.unaryRules score).find? fun r => !r.symbols.all (Grammar.isSymbol p.vocabulary)) =
      none := by
    rw [List.find?_eq_none]
    intro r hr
    have hpos := ((mem_unaryRules h).mp hr).1
    rw [h.unary, List.countP_pos_iff] at hpos
    obtain ⟨q, -, hq⟩ := hpos
    simp [all_isSymbol_unary (of_decide_eq_true hq)]
  have hnone : Grammar.unknownSymbol? p.vocabulary (p.binaryRules score) (p.unaryRules score) =
      none := by
    rw [Grammar.unknownSymbol?, hbinary, hunary]
    rfl
  exact ⟨⟨p.vocabulary, p.binaryRules score, p.unaryRules score,
    Grammar.groupByLeft (p.binaryRules score)⟩, by rw [grammar?, Grammar.ofRules?, hnone]⟩

end Productions

section Scores

variable {ρ : Type} [Probability ρ] [LogScale σ ρ]

/-- A grammar is read off trees if all of their nodes have productions, and it is that of the counts. -/
theorem induce_eq_ok_iff {v : Vocabulary} {ts : List Tree} {g : Grammar σ} :
    Grammar.induce v ts = .ok g ↔ (∀ t ∈ ts, ∀ u ∈ t.nodes, u.production?.isSome) ∧
      ((Productions.productionsOf ts).foldl Productions.count (.start v)).grammar? logShare = .ok g := by
  have hcount := Productions.ofTrees_eq_ok_iff v ts
  unfold Grammar.induce
  cases hp : Productions.ofTrees v ts with
  | error e =>
    simp only [hp, reduceCtorEq, false_iff] at hcount ⊢
    exact fun h => hcount _ ⟨h.1, rfl⟩
  | ok p =>
    obtain ⟨hall, rfl⟩ := (hcount p).mp hp
    rw [and_iff_right hall]
    dsimp only
    cases Productions.grammar? _ (logShare : Nat → Nat → σ) with
    | error e => simp [Except.mapError]
    | ok g' => simp [Except.mapError]

theorem isInduced_of_induce {ts : List Tree} {g : Grammar σ}
    (h : Grammar.induce .empty ts = .ok g) :
    (∀ t ∈ ts, ∀ u ∈ t.nodes, u.production?.isSome) ∧
      IsInduced logShare (Productions.productionsOf ts) g := by
  obtain ⟨hall, hg⟩ := induce_eq_ok_iff.mp h
  exact ⟨hall, Productions.isInduced (Productions.counted_foldl .empty _) hg⟩

/-- A grammar can be read off all trees whose nodes have productions. -/
theorem exists_induce {v : Vocabulary} {ts : List Tree}
    (h : ∀ t ∈ ts, ∀ u ∈ t.nodes, u.production?.isSome) : ∃ g : Grammar σ, Grammar.induce v ts = .ok g := by
  obtain ⟨g, hg⟩ := Productions.exists_grammar?
    (Productions.counted_foldl v (Productions.productionsOf ts)) (logShare : Nat → Nat → σ)
  exact ⟨g, induce_eq_ok_iff.mpr ⟨h, hg⟩⟩

end Scores

namespace IsInduced

variable {score : Nat → Nat → σ} {qs : List Production} {g : Grammar σ} (h : IsInduced score qs g)

include h

/-- A production is that of one rule at most. -/
theorem unary_inj {r s : UnaryRule σ} (hr : r ∈ g.unary) (hs : s ∈ g.unary)
    (heq : r.production g = s.production g) : r = s := by
  obtain ⟨hrp, hrc⟩ := h.proper.unary r hr
  obtain ⟨hsp, hsc⟩ := h.proper.unary s hs
  have hscore : r.score = s.score := by
    simp only [UnaryRule.production, Production.unary.injEq] at heq
    rw [h.unary_score r hr, h.unary_score s hs, UnaryRule.production, UnaryRule.production, heq.1, heq.2]
  simp only [UnaryRule.production, Production.unary.injEq] at heq
  have hparent := label_inj h.nodup hrp hsp heq.1
  have hchild := label_inj h.nodup hrc hsc heq.2
  cases r
  cases s
  simp_all

theorem binary_inj {r s : BinaryRule σ} (hr : r ∈ g.binary) (hs : s ∈ g.binary)
    (heq : r.production g = s.production g) : r = s := by
  obtain ⟨hrp, hrl, hrr⟩ := h.proper.binary r hr
  obtain ⟨hsp, hsl, hsr⟩ := h.proper.binary s hs
  have hscore : r.score = s.score := by
    simp only [BinaryRule.production, Production.binary.injEq] at heq
    rw [h.binary_score r hr, h.binary_score s hs, BinaryRule.production, BinaryRule.production, heq.1,
      heq.2.1, heq.2.2]
  simp only [BinaryRule.production, Production.binary.injEq] at heq
  have hparent := label_inj h.nodup hrp hsp heq.1
  have hleft := label_inj h.nodup hrl hsl heq.2.1
  have hright := label_inj h.nodup hrr hsr heq.2.2
  cases r
  cases s
  simp_all

omit h in
/-- A production occurs no more often than its parent. -/
theorem count_le {q : Production} {l : String} (hl : q.ruleParent? = some l) :
    qs.count q ≤ qs.countP fun q => q.ruleParent? = some l := by
  rw [List.count_eq_countP]
  refine List.countP_mono_left fun p _ hp => ?_
  rw [beq_iff_eq] at hp
  rw [hp]
  exact decide_eq_true hl

/-- Every score of a rule is that of a count, which is not zero, in a total that is no smaller. -/
theorem exists_unary_share {r : UnaryRule σ} (hr : r ∈ g.unary) :
    ∃ n total, 0 < n ∧ n ≤ total ∧ r.score = score n total :=
  ⟨_, _, List.count_pos_iff.mpr (h.unary_mem r hr), count_le rfl, h.unary_score r hr⟩

theorem exists_binary_share {r : BinaryRule σ} (hr : r ∈ g.binary) :
    ∃ n total, 0 < n ∧ n ≤ total ∧ r.score = score n total :=
  ⟨_, _, List.count_pos_iff.mpr (h.binary_mem r hr), count_le rfl, h.binary_score r hr⟩

end IsInduced

end Constituency
