import Constituency.Proofs.Grammar.Groups

/-!
# Grammars as indices of their rules

A grammar is refused exactly for a rule with a symbol outside of its vocabulary (`exists_error_iff`). In any
other one the groups divide the binary rules up: the group of a left child lists its rules in the order of
their numbers (`byLeft_eq`, `getElem?_rulesOf`), so every number is found in one group at one position
(`existsUnique_place`).
-/
namespace Constituency.Grammar

variable {σ : Type}

/-! ### Refused rules -/

/-- Whether some rule has a symbol that is not in the vocabulary. -/
def HasUnknownSymbol (v : Vocabulary) (binary : List (BinaryRule σ)) (unary : List (UnaryRule σ)) : Prop :=
  (∃ r ∈ binary, ∃ a ∈ r.symbols, ¬ (0 ≤ a ∧ a < v.size)) ∨
    ∃ r ∈ unary, ∃ a ∈ r.symbols, ¬ (0 ≤ a ∧ a < v.size)

theorem isSymbol_iff {v : Vocabulary} {a : Symbol} : isSymbol v a = true ↔ 0 ≤ a ∧ a < v.size := by
  rw [isSymbol, Bool.and_eq_true, decide_eq_true_eq, decide_eq_true_eq]

theorem unknownSymbol?_eq_none_iff {v : Vocabulary} {binary : List (BinaryRule σ)}
    {unary : List (UnaryRule σ)} :
    unknownSymbol? v binary unary = none ↔ ¬ HasUnknownSymbol v binary unary := by
  have hnone : ∀ {α : Type} (rules : List α) (symbols : α → List Symbol),
      (rules.find? fun r => !(symbols r).all (isSymbol v)) = none ↔
        ¬ ∃ r ∈ rules, ∃ a ∈ symbols r, ¬ (0 ≤ a ∧ a < v.size) := by
    intro α rules symbols
    simp only [List.find?_eq_none, Bool.not_eq_true', Bool.not_eq_false, List.all_eq_true, isSymbol_iff]
    push Not
    rfl
  rw [HasUnknownSymbol, not_or, ← hnone, ← hnone, unknownSymbol?]
  cases binary.find? fun r => !r.symbols.all (isSymbol v) with
  | some r => simp
  | none => simp

theorem ofRules?_of_not_hasUnknownSymbol {v : Vocabulary} {binary : List (BinaryRule σ)}
    {unary : List (UnaryRule σ)} (h : ¬ HasUnknownSymbol v binary unary) :
    ofRules? v binary unary = .ok ⟨v, binary, unary, groupByLeft binary⟩ := by
  rw [ofRules?, unknownSymbol?_eq_none_iff.mpr h]

/-- A grammar is refused if and only if one of its rules has an unknown symbol. -/
theorem exists_error_iff {v : Vocabulary} {binary : List (BinaryRule σ)} {unary : List (UnaryRule σ)} :
    (∃ e, ofRules? v binary unary = .error e) ↔ HasUnknownSymbol v binary unary := by
  constructor
  · rintro ⟨e, he⟩
    by_contra h
    rw [ofRules?_of_not_hasUnknownSymbol h] at he
    exact absurd he (by simp)
  · intro h
    obtain ⟨e, he⟩ := Option.ne_none_iff_exists'.mp (unknownSymbol?_eq_none_iff.not.mpr (not_not.mpr h))
    exact ⟨e, by rw [ofRules?, he]⟩

/-! ### Groups -/

/-- The numbers of the rules with a left child, in ascending order. -/
def ruleIndices (rules : List (BinaryRule σ)) (l : Symbol) : List Nat :=
  rules.findIdxs fun r => r.left = l

theorem mem_ruleIndices {rules : List (BinaryRule σ)} {l : Symbol} {i : Nat} :
    i ∈ ruleIndices rules l ↔ ∃ r, rules[i]? = some r ∧ r.left = l := by
  rw [ruleIndices, List.mem_findIdxs_iff_exists_getElem_pos]
  simp only [decide_eq_true_eq, List.getElem?_eq_some_iff]
  constructor
  · rintro ⟨hi, hleft⟩
    exact ⟨_, ⟨hi, rfl⟩, hleft⟩
  · rintro ⟨r, ⟨hi, rfl⟩, hleft⟩
    exact ⟨hi, hleft⟩

theorem length_ruleIndices (rules : List (BinaryRule σ)) (l : Symbol) :
    (ruleIndices rules l).length = (rulesOf rules l).length := by
  rw [ruleIndices, List.length_findIdxs, rulesOf, List.countP_eq_length_filter]

/-- The rule whose number stands at a position among those with a left child. -/
def ruleAt? (rules : List (BinaryRule σ)) (l : Symbol) (k : Nat) : Option (BinaryRule σ) :=
  (ruleIndices rules l)[k]?.bind (rules[·]?)

/-- The rules with a left child stand in the order of their numbers. -/
theorem getElem?_rulesOf (rules : List (BinaryRule σ)) (l : Symbol) (k : Nat) :
    (rulesOf rules l)[k]? = ruleAt? rules l k := by
  by_cases hk : k < (rulesOf rules l).length
  · have hk' : k < (ruleIndices rules l).length := length_ruleIndices rules l ▸ hk
    obtain ⟨r, hr, -⟩ := mem_ruleIndices.mp (List.getElem_mem hk')
    have hrule := List.getElem_filter_eq_getElem_getElem_findIdxs hk
    rw [ruleAt?, List.getElem?_eq_getElem hk, List.getElem?_eq_getElem hk', Option.bind_some, hr,
      Option.some.injEq]
    exact hrule.trans (List.getElem?_eq_some_iff.mp hr).2
  · have hk' : (ruleIndices rules l).length ≤ k := length_ruleIndices rules l ▸ Nat.le_of_not_lt hk
    rw [ruleAt?, List.getElem?_eq_none (Nat.le_of_not_lt hk), List.getElem?_eq_none hk', Option.bind_none]

/-- The number of a rule is found among those of its left child only, and there once. -/
theorem existsUnique_place (rules : List (BinaryRule σ)) {i : Nat} (hi : i < rules.length) :
    ∃! place : Symbol × Nat, (ruleIndices rules place.1)[place.2]? = some i := by
  have hrule := List.getElem?_eq_getElem hi
  obtain ⟨k, hk⟩ := List.getElem?_of_mem (mem_ruleIndices.mpr ⟨_, hrule, rfl⟩)
  refine ⟨(rules[i].left, k), hk, ?_⟩
  rintro ⟨l, k'⟩ hk'
  obtain ⟨r, hr, rfl⟩ := mem_ruleIndices.mp (List.mem_of_getElem? hk')
  obtain rfl := Option.some.inj (hrule.symm.trans hr)
  have hnodup : (ruleIndices rules rules[i].left).Nodup := List.nodup_findIdxs
  have hlt := (List.getElem?_eq_some_iff.mp hk).1
  rw [(List.getElem?_inj hlt hnodup).mp (hk.trans hk'.symm)]

namespace IsProper

variable {g : Grammar σ}

/-- The left children are the symbols below the number of all that have rules. -/
theorem leftChildren_eq (h : g.IsProper) : g.leftChildren =
    ((List.range g.numSymbols).filter fun x : Nat => rulesOf g.binary x ≠ []).map
      fun x : Nat => (x : Symbol) := by
  rw [leftChildren, h.groups_eq, groupByLeft_eq fun r hr => (h.binary r hr).2.1, ascending,
    List.map_map, List.map_map]
  rfl

theorem leftChildren_ascending (h : g.IsProper) : g.leftChildren.Pairwise (· < ·) := by
  rw [h.leftChildren_eq, List.pairwise_map]
  exact (List.pairwise_lt_range.filter _).imp Int.ofNat_lt.mpr

theorem mem_leftChildren (h : g.IsProper) {l : Symbol} :
    l ∈ g.leftChildren ↔ ∃ r ∈ g.binary, r.left = l := by
  simp only [h.leftChildren_eq, List.mem_map, List.mem_filter, List.mem_range, decide_eq_true_eq]
  constructor
  · rintro ⟨x, ⟨-, hrules⟩, rfl⟩
    obtain ⟨r, hr⟩ := List.exists_mem_of_ne_nil _ hrules
    exact ⟨r, mem_rulesOf.mp hr⟩
  · rintro ⟨r, hr, rfl⟩
    obtain ⟨hnonneg, hlt⟩ := (h.binary r hr).2.1
    obtain ⟨x, hx⟩ := Int.eq_ofNat_of_zero_le hnonneg
    rw [hx] at hlt
    refine ⟨x, ⟨Int.ofNat_lt.mp hlt, ?_⟩, hx.symm⟩
    exact List.ne_nil_of_mem (mem_rulesOf.mpr ⟨hr, hx⟩)

/-- The group of a symbol holds the rules with this left child, in their given order. -/
theorem byLeft_eq (h : g.IsProper) (l : Symbol) : g.byLeft l = rulesOf g.binary l := by
  have hrules : ∀ group ∈ g.groups, group.rules = rulesOf g.binary group.left := by
    intro group hgroup
    rw [h.groups_eq, groupByLeft_eq fun r hr => (h.binary r hr).2.1, List.mem_map] at hgroup
    obtain ⟨e, he, rfl⟩ := hgroup
    obtain ⟨x, -, rfl⟩ := List.mem_map.mp he
    rfl
  rw [byLeft]
  split
  · rename_i group hgroup
    have hleft : group.left = l := by simpa using List.find?_some hgroup
    rw [hrules group (List.mem_of_find?_eq_some hgroup), hleft]
  · rename_i hnone
    -- a rule with this left child would have a group
    rw [eq_comm, List.eq_nil_iff_forall_not_mem]
    intro r hr
    obtain ⟨group, hgroup, hleft⟩ := List.mem_map.mp (h.mem_leftChildren.mpr ⟨r, mem_rulesOf.mp hr⟩)
    exact List.find?_eq_none.mp hnone group hgroup (by simpa using hleft)

end IsProper

/-! ### The index of a grammar -/

/-- The parents, the right children and the scores of the rules with a left child, side by side. -/
def columns (g : Grammar σ) (l : Symbol) : List Symbol × List Symbol × List σ :=
  ((g.byLeft l).map (·.parent), (g.byLeft l).map (·.right), (g.byLeft l).map (·.score))

/-- What the groups of a grammar say about its binary rules. -/
structure IsIndex (g : Grammar σ) : Prop where
  ascending : g.leftChildren.Pairwise (· < ·)
  mem_iff : ∀ l, l ∈ g.leftChildren ↔ ∃ r ∈ g.binary, r.left = l
  columns : ∀ l k,
    (g.columns l).1[k]? = (ruleAt? g.binary l k).map (·.parent) ∧
    (g.columns l).2.1[k]? = (ruleAt? g.binary l k).map (·.right) ∧
    (g.columns l).2.2[k]? = (ruleAt? g.binary l k).map (·.score)
  numbers_ascending : ∀ l, (ruleIndices g.binary l).Pairwise (· < ·)
  mem_numbers_iff : ∀ l i, i ∈ ruleIndices g.binary l ↔ ∃ r, g.binary[i]? = some r ∧ r.left = l
  other : ∀ l, l ∉ g.leftChildren → g.columns l = ([], [], [])
  place : ∀ i < g.binary.length, ∃! place : Symbol × Nat,
    place.1 ∈ g.leftChildren ∧ (ruleIndices g.binary place.1)[place.2]? = some i

theorem IsProper.isIndex {g : Grammar σ} (h : g.IsProper) : g.IsIndex where
  ascending := h.leftChildren_ascending
  mem_iff _ := h.mem_leftChildren
  columns l k := by
    simp only [Grammar.columns, List.getElem?_map, h.byLeft_eq, getElem?_rulesOf, and_self]
  numbers_ascending _ := List.pairwise_findIdxs
  mem_numbers_iff _ _ := mem_ruleIndices
  other l hl := by
    have hnil : rulesOf g.binary l = [] := by
      rw [List.eq_nil_iff_forall_not_mem]
      exact fun r hr => hl (h.mem_leftChildren.mpr ⟨r, mem_rulesOf.mp hr⟩)
    rw [Grammar.columns, h.byLeft_eq, hnil]
    rfl
  place i hi := by
    obtain ⟨place, hplace, hunique⟩ := existsUnique_place g.binary hi
    obtain ⟨r, hr, hleft⟩ := mem_ruleIndices.mp (List.mem_of_getElem? hplace)
    refine ⟨place, ⟨h.mem_leftChildren.mpr ⟨r, List.mem_of_getElem? hr, hleft⟩, hplace⟩, ?_⟩
    exact fun place' hplace' => hunique place' hplace'.2

/-- Rules are refused if and only if one of them has a symbol outside of the vocabulary. Otherwise they make up
a grammar, whose groups divide up the binary ones in their order. -/
theorem ofRules?_indexes (v : Vocabulary) (binary : List (BinaryRule σ)) (unary : List (UnaryRule σ)) :
    ((∃ e, ofRules? v binary unary = .error e) ↔ HasUnknownSymbol v binary unary) ∧
    (HasUnknownSymbol v binary unary ∨ ∃ g, ofRules? v binary unary = .ok g ∧
      g.vocabulary = v ∧ g.binary = binary ∧ g.unary = unary ∧ g.IsIndex) := by
  refine ⟨exists_error_iff, ?_⟩
  by_cases h : HasUnknownSymbol v binary unary
  · exact Or.inl h
  · have hok := ofRules?_of_not_hasUnknownSymbol h
    exact Or.inr ⟨_, hok, rfl, rfl, rfl, (isProper_of_ofRules? hok).2.isIndex⟩

end Constituency.Grammar
