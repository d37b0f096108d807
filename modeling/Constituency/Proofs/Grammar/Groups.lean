import Constituency.Grammar.Basic
import Constituency.Proofs.OrderedMap
import Mathlib.Data.List.Induction

/-!
# Rules by left child

The groups of a grammar are those of its left children in ascending order, each with the rules of this
left child in their given order (`groupByLeft_eq`).
-/
namespace Constituency

namespace Grammar

variable {σ : Type}

/-- The rules with a left child, in their given order. -/
def rulesOf (rules : List (BinaryRule σ)) (x : Symbol) : List (BinaryRule σ) :=
  rules.filter fun r => r.left = x

theorem mem_rulesOf {rules : List (BinaryRule σ)} {x : Symbol} {r : BinaryRule σ} :
    r ∈ rulesOf rules x ↔ r ∈ rules ∧ r.left = x := by
  simp [rulesOf]

theorem collect_append (rules : List (BinaryRule σ)) (r : BinaryRule σ) :
    collect (rules ++ [r]) = (collect rules).alter r.left fun rs => rs.getD [] ++ [r] := by
  simp [collect, List.foldl_append]

theorem nodup_keys_collect (rules : List (BinaryRule σ)) : (collect rules).keys.Nodup := by
  induction rules using List.reverseRecOn with
  | nil => simp [collect, OrderedMap.keys, OrderedMap.empty]
  | append_singleton rules r ih => exact collect_append rules r ▸ OrderedMap.nodup_keys_alter ih _ _

/-- Under a left child stand its rules, unless there is none. -/
theorem get?_collect (rules : List (BinaryRule σ)) (x : Symbol) :
    (collect rules).get? x = if rulesOf rules x = [] then none else some (rulesOf rules x) := by
  induction rules using List.reverseRecOn with
  | nil => rfl
  | append_singleton rules r ih =>
    have hrules : rulesOf (rules ++ [r]) x =
        rulesOf rules x ++ if r.left = x then [r] else [] := by
      by_cases hx : r.left = x <;> simp [rulesOf, hx]
    rw [collect_append, OrderedMap.get?_alter, hrules]
    by_cases hx : r.left = x
    · subst hx
      rw [ih]
      by_cases hnil : rulesOf rules r.left = [] <;> simp [hnil]
    · simp [hx, ih]

/-- The left children below a bound in ascending order, each with its rules. -/
def ascending (n : Nat) (rules : List (BinaryRule σ)) : List (Symbol × List (BinaryRule σ)) :=
  ((List.range n).filter fun x : Nat => rulesOf rules x ≠ []).map fun x : Nat => (x, rulesOf rules x)

theorem perm_ascending {n : Nat} {rules : List (BinaryRule σ)}
    (h : ∀ r ∈ rules, 0 ≤ r.left ∧ r.left < n) :
    (collect rules).entries.Perm (ascending n rules) := by
  have hnodup := nodup_keys_collect rules
  refine (List.perm_ext_iff_of_nodup (List.Nodup.of_map _ hnodup) ?_).mpr ?_
  · refine (List.nodup_range.filter _).map fun a b hab => ?_
    exact Int.ofNat.inj (Prod.ext_iff.mp hab).1
  · rintro ⟨x, rs⟩
    rw [OrderedMap.mem_entries hnodup, get?_collect]
    simp only [ascending, List.mem_map, List.mem_filter, List.mem_range, Prod.mk.injEq,
      decide_eq_true_eq]
    constructor
    · intro hx
      split_ifs at hx with hnil
      obtain ⟨r, hr⟩ := List.exists_mem_of_ne_nil _ hnil
      obtain ⟨hmem, rfl⟩ := mem_rulesOf.mp hr
      obtain ⟨k, hk⟩ := Int.eq_ofNat_of_zero_le (h r hmem).1
      have hlt := (h r hmem).2
      rw [hk] at hx hnil hlt ⊢
      exact ⟨k, ⟨Int.ofNat_lt.mp hlt, hnil⟩, rfl, Option.some.inj hx⟩
    · rintro ⟨k, ⟨-, hnil⟩, rfl, rfl⟩
      rw [if_neg hnil]

/-- The groups of rules whose left children are numbers below a bound. -/
theorem groupByLeft_eq {n : Nat} {rules : List (BinaryRule σ)}
    (h : ∀ r ∈ rules, 0 ≤ r.left ∧ r.left < n) :
    groupByLeft rules = (ascending n rules).map fun e => ⟨e.1, e.2⟩ := by
  have hperm := (List.mergeSort_perm (collect rules).entries fun a b => a.1 ≤ b.1).trans
    (perm_ascending h)
  have hsorted : ((collect rules).entries.mergeSort fun a b => a.1 ≤ b.1).Pairwise
      fun a b => decide (a.1 ≤ b.1) = true := by
    apply List.pairwise_mergeSort
    · intro a b c hab hbc
      simp only [decide_eq_true_eq] at *
      exact Int.le_trans hab hbc
    · intro a b
      simp only [Bool.or_eq_true, decide_eq_true_eq]
      exact Int.le_total a.1 b.1
  have hascending : (ascending n rules).Pairwise fun a b => decide (a.1 ≤ b.1) = true := by
    rw [ascending, List.pairwise_map]
    refine (List.pairwise_lt_range.filter _).imp fun hab => ?_
    exact decide_eq_true (Int.ofNat_le.mpr (Nat.le_of_lt hab))
  rw [groupByLeft, hperm.eq_of_pairwise (fun a b ha hb hab hba => ?_) hsorted hascending]
  obtain ⟨x, -, rfl⟩ := List.mem_map.mp (hperm.subset ha)
  obtain ⟨y, -, rfl⟩ := List.mem_map.mp hb
  simp only [decide_eq_true_eq] at hab hba
  rw [Int.le_antisymm hab hba]

/-- A grammar whose rules have symbols of its vocabulary, under their left children. -/
structure IsProper (g : Grammar σ) : Prop where
  binary : ∀ r ∈ g.binary, (0 ≤ r.parent ∧ r.parent < g.numSymbols) ∧
    (0 ≤ r.left ∧ r.left < g.numSymbols) ∧ 0 ≤ r.right ∧ r.right < g.numSymbols
  unary : ∀ r ∈ g.unary, (0 ≤ r.parent ∧ r.parent < g.numSymbols) ∧
    0 ≤ r.child ∧ r.child < g.numSymbols
  groups_eq : g.groups = groupByLeft g.binary

/-- The grammars that are not refused are proper ones. -/
theorem isProper_of_ofRules? {v : Vocabulary} {binary : List (BinaryRule σ)}
    {unary : List (UnaryRule σ)} {g : Grammar σ} (h : ofRules? v binary unary = .ok g) :
    g = ⟨v, binary, unary, groupByLeft binary⟩ ∧ g.IsProper := by
  unfold ofRules? at h
  split at h
  · exact absurd h (by simp)
  · rename_i hnone
    obtain rfl := Except.ok.inj h
    unfold unknownSymbol? at hnone
    split at hnone
    · exact absurd hnone (by simp)
    · rename_i hbinary
      rw [Option.map_eq_none_iff] at hnone
      refine ⟨rfl, ⟨fun r hr => ?_, fun r hr => ?_, rfl⟩⟩
      · have hsymbols := List.find?_eq_none.mp hbinary r hr
        simpa [BinaryRule.symbols, isSymbol, numSymbols] using hsymbols
      · have hsymbols := List.find?_eq_none.mp hnone r hr
        simpa [UnaryRule.symbols, isSymbol, numSymbols] using hsymbols

/-- Going through the groups is going through the rules of all symbols. -/
theorem foldl_groupByLeft {α : Type} {n : Nat} {rules : List (BinaryRule σ)}
    (h : ∀ r ∈ rules, 0 ≤ r.left ∧ r.left < n) (f : α → LeftGroup σ → α)
    (hf : ∀ a x, f a ⟨x, []⟩ = a) (a : α) :
    (groupByLeft rules).foldl f a =
      (List.range n).foldl (fun a (x : Nat) => f a ⟨x, rulesOf rules x⟩) a := by
  rw [groupByLeft_eq h, ascending, List.foldl_map, List.foldl_map, List.foldl_filter]
  congr 1
  funext a x
  by_cases hnil : rulesOf rules x = [] <;> simp [hnil, hf]

end Grammar

end Constituency
