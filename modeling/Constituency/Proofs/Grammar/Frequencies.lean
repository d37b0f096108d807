import Constituency.Proofs.Grammar.Induction
import Constituency.Proofs.Probability
import Mathlib.Algebra.BigOperators.Group.List.Lemmas
import Mathlib.Algebra.BigOperators.Ring.Finset
import Mathlib.Data.List.Dedup

/-!
# Relative frequencies

The rules of an induced grammar stand in the order in which their productions come first in the trees
(`listed_foldl`), each with its relative frequency among the nodes with the same label that are no
preterminals. The frequencies under one label add up to one, and the order of the trees does not matter
(`induce_isEstimate`).
-/
namespace Constituency

/-! ### First occurrences -/

section FirstOccurrences

variable {α β : Type} [BEq α] [LawfulBEq α] [BEq β] [LawfulBEq β]

theorem eraseDups_concat (xs : List α) (x : α) :
    (xs ++ [x]).eraseDups = if x ∈ xs then xs.eraseDups else xs.eraseDups ++ [x] := by
  rw [List.eraseDups_append]
  split_ifs with hx
  · simp [List.removeAll, hx]
  · simp [List.removeAll, hx, List.eraseDups_cons]

theorem nodup_eraseDups (xs : List α) : xs.eraseDups.Nodup := by
  induction xs using List.reverseRecOn with
  | nil => exact List.nodup_nil
  | append_singleton xs x ih =>
    rw [eraseDups_concat]
    split_ifs with hx
    · exact ih
    · refine List.nodup_append.mpr ⟨ih, List.nodup_singleton x, fun a ha b hb => ?_⟩
      rw [List.mem_singleton] at hb
      subst hb
      exact ne_of_mem_of_not_mem (List.mem_eraseDups.mp ha) hx

/-- What is told apart before a change and after it comes first at the same places. -/
theorem eraseDups_map {f : α → β} {xs : List α} (h : ∀ x ∈ xs, ∀ y ∈ xs, f x = f y → x = y) :
    (xs.map f).eraseDups = xs.eraseDups.map f := by
  induction xs using List.reverseRecOn with
  | nil => rfl
  | append_singleton xs x ih =>
    have hxs := ih fun y hy z hz => h y (List.mem_append_left _ hy) z (List.mem_append_left _ hz)
    have hmem : f x ∈ xs.map f ↔ x ∈ xs := by
      constructor
      · intro hx
        obtain ⟨y, hy, hsame⟩ := List.mem_map.mp hx
        exact h y (List.mem_append_left _ hy) x (by simp) hsame ▸ hy
      · exact List.mem_map_of_mem
    rw [List.map_append, List.map_singleton, eraseDups_concat, eraseDups_concat, hxs]
    simp only [hmem]
    split_ifs
    · rfl
    · rw [List.map_append, List.map_singleton]

/-- The first occurrences of keys that are made of some members of a list, and that tell them. -/
theorem map_eraseDups_filterMap {key? : α → Option β} {member : β → α} {p : α → Bool} {xs : List α}
    (h : ∀ x ∈ xs, (key? x).map member = Option.guard p x) :
    (xs.filterMap key?).eraseDups.map member = (xs.filter p).eraseDups := by
  have hkept : (xs.filterMap key?).map member = xs.filter p := by
    rw [List.map_filterMap, ← List.filterMap_eq_filter]
    exact List.filterMap_congr h
  have hkey : ∀ k ∈ xs.filterMap key?, key? (member k) = some k := by
    intro k hk
    obtain ⟨x, hx, hkx⟩ := List.mem_filterMap.mp hk
    have hx' := h x hx
    rw [hkx, Option.map_some, eq_comm, Option.guard_eq_some_iff] at hx'
    rw [← hx'.1, hkx]
  rw [← hkept, eraseDups_map]
  intro k hk k' hk' hsame
  have hk := hkey k hk
  rw [hsame, hkey k' hk'] at hk
  exact (Option.some.inj hk).symm

end FirstOccurrences

/-- A tally lists keys in the order in which they are counted first, also when the way to find them changes,
as long as it still finds those that were counted. -/
theorem Tally.keys_bump?_eq {α κ : Type} [DecidableEq κ] [BEq κ] [LawfulBEq κ] {t : Tally κ} {xs : List α}
    {key? key?' : α → Option κ} (h : t.keys = (xs.filterMap key?).eraseDups)
    (hkey : ∀ x ∈ xs, key?' x = key? x) (y : α) :
    (t.bump? (key?' y)).keys = ((xs ++ [y]).filterMap key?').eraseDups := by
  rw [List.filterMap_append, List.filterMap_congr hkey]
  cases hy : key?' y with
  | none => simpa [Tally.bump?, hy] using h
  | some k =>
    have hlast : [y].filterMap key?' = [k] := by simp [hy]
    rw [Tally.bump?, Tally.keys_bump, h, hlast, eraseDups_concat]
    simp only [List.mem_eraseDups]

namespace Productions

/-- The rules that have been counted, in the order in which their productions came first. -/
structure Listed (qs : List Production) (p : Productions) : Prop where
  unary : p.unary.keys = (qs.filterMap (Production.unaryKey? p.vocabulary)).eraseDups
  binary : p.binary.keys = (qs.filterMap (Production.binaryKey? p.vocabulary)).eraseDups

/-- Counting one production more. -/
theorem Listed.count {v : Vocabulary} {qs : List Production} {p : Productions} (h : Listed qs p)
    (hcounted : Counted v qs p) (q : Production) : Listed (qs ++ [q]) (p.count q) := by
  have hgrows := grows_count p q
  constructor
  · rw [unary_count]
    exact Tally.keys_bump?_eq h.unary (fun r hr => unaryKey?_of_grows hgrows (hcounted.knows r hr)) q
  · rw [binary_count]
    exact Tally.keys_bump?_eq h.binary (fun r hr => binaryKey?_of_grows hgrows (hcounted.knows r hr)) q

theorem listed_foldl (v : Vocabulary) (qs : List Production) :
    Listed qs (qs.foldl Productions.count (start v)) := by
  induction qs using List.reverseRecOn with
  | nil => exact ⟨rfl, rfl⟩
  | append_singleton qs q ih =>
    rw [List.foldl_append]
    exact ih.count (counted_foldl v qs) q

end Productions

namespace Production

/-- The label of the node that has a production. -/
def parent : Production → String
  | tag l => l
  | unary l _ => l
  | binary l _ _ => l

/-- Whether a production is that of a node with one child, which is no leaf. -/
def isUnary : Production → Bool
  | unary _ _ => true
  | _ => false

/-- Whether a production is that of a node with two children. -/
def isBinary : Production → Bool
  | binary _ _ _ => true
  | _ => false

theorem ruleParent?_eq (q : Production) :
    q.ruleParent? = if q.isBinary || q.isUnary then some q.parent else none := by
  cases q <;> rfl

variable {σ : Type} {g : Grammar σ} {q : Production} (h : ∀ l ∈ q.labels, g.vocabulary.Knows l)

include h

/-- The symbols of a unary production tell the production. -/
theorem map_unaryKey? : (q.unaryKey? g.vocabulary).map (fun k => unary (g.label k.1) (g.label k.2)) =
    Option.guard isUnary q := by
  cases q with
  | tag l => rfl
  | binary l m n => rfl
  | unary l m =>
    obtain ⟨a, ha⟩ := exists_symbol? (h l (by simp [labels]))
    obtain ⟨b, hb⟩ := exists_symbol? (h m (by simp [labels]))
    simp [unaryKey?, ha, hb, label_of_symbol? ha, label_of_symbol? hb, isUnary, Option.guard]

theorem map_binaryKey? :
    (q.binaryKey? g.vocabulary).map (fun k => binary (g.label k.1) (g.label k.2.1) (g.label k.2.2)) =
      Option.guard isBinary q := by
  cases q with
  | tag l => rfl
  | unary l m => rfl
  | binary l m n =>
    obtain ⟨a, ha⟩ := exists_symbol? (h l (by simp [labels]))
    obtain ⟨b, hb⟩ := exists_symbol? (h m (by simp [labels]))
    obtain ⟨c, hc⟩ := exists_symbol? (h n (by simp [labels]))
    simp [binaryKey?, ha, hb, hc, label_of_symbol? ha, label_of_symbol? hb, label_of_symbol? hc, isBinary,
      Option.guard]

end Production

namespace Productions

variable {σ : Type} {v : Vocabulary} {qs : List Production} {p : Productions} {score : Nat → Nat → σ}
  {g : Grammar σ} (h : Counted v qs p) (hlisted : Listed qs p) (hg : p.grammar? score = .ok g)

include h hlisted hg

/-- The rules stand in the order in which their productions came first. -/
theorem map_production_unary : g.unary.map (·.production g) = (qs.filter Production.isUnary).eraseDups := by
  obtain ⟨heq, -⟩ := Grammar.isProper_of_ofRules? hg
  have hvoc : g.vocabulary = p.vocabulary := by rw [heq]
  have hunary : g.unary = p.unaryRules score := by rw [heq]
  have hkeys : g.unary.map (·.production g) =
      p.unary.keys.map fun k => .unary (g.label k.1) (g.label k.2) := by
    rw [hunary, unaryRules, OrderedMap.keys, List.map_map, List.map_map]
    rfl
  rw [hkeys, hlisted.unary, ← hvoc]
  exact map_eraseDups_filterMap fun q hq => Production.map_unaryKey? (hvoc ▸ h.knows q hq)

theorem map_production_binary :
    g.binary.map (·.production g) = (qs.filter Production.isBinary).eraseDups := by
  obtain ⟨heq, -⟩ := Grammar.isProper_of_ofRules? hg
  have hvoc : g.vocabulary = p.vocabulary := by rw [heq]
  have hbinary : g.binary = p.binaryRules score := by rw [heq]
  have hkeys : g.binary.map (·.production g) =
      p.binary.keys.map fun k => .binary (g.label k.1) (g.label k.2.1) (g.label k.2.2) := by
    rw [hbinary, binaryRules, OrderedMap.keys, List.map_map, List.map_map]
    rfl
  rw [hkeys, hlisted.binary, ← hvoc]
  exact map_eraseDups_filterMap fun q hq => Production.map_binaryKey? (hvoc ▸ h.knows q hq)

end Productions

/-! ### Occurrences -/

namespace Productions

variable {ts : List Tree}

/-- How many nodes have a production. -/
def occurrences (ts : List Tree) (q : Production) : Nat :=
  (ts.flatMap Tree.nodes).countP fun u => u.production? = some q

/-- How many nodes have a label and are no preterminals. -/
def parentOccurrences (ts : List Tree) (l : String) : Nat :=
  (ts.flatMap Tree.nodes).countP fun u => u.label? = some l ∧ u.isPreterminal = false

/-- The share of a production in the nodes with its label that are no preterminals. -/
def relativeFrequency (ts : List Tree) (q : Production) : ℚ :=
  occurrences ts q / parentOccurrences ts q.parent

theorem occurrences_eq (ts : List Tree) (q : Production) :
    occurrences ts q = (productionsOf ts).count q := by
  rw [occurrences, productionsOf, List.count_eq_countP, List.countP_filterMap]
  refine List.countP_congr fun u _ => ?_
  cases u.production? <;> simp

/-- The parent of a rule is the label of a node that is no preterminal. -/
theorem ruleParent?_of_production? {u : Tree} {q : Production} (h : u.production? = some q) :
    q.ruleParent? = if u.isPreterminal then none else u.label? := by
  cases u with
  | leaf w => exact absurd h (by simp [Tree.production?])
  | node l cs =>
    rcases Tree.production?_eq_some h with ⟨w, rfl, rfl⟩ | ⟨m, ds, rfl, rfl⟩ | ⟨m, ds, n, es, rfl, rfl⟩
    all_goals rfl

theorem parentOccurrences_eq (hall : ∀ t ∈ ts, ∀ u ∈ t.nodes, u.production?.isSome) (l : String) :
    parentOccurrences ts l = (productionsOf ts).countP fun q => q.ruleParent? = some l := by
  rw [parentOccurrences, productionsOf, List.countP_filterMap]
  refine List.countP_congr fun u hu => ?_
  obtain ⟨t, ht, hut⟩ := List.mem_flatMap.mp hu
  obtain ⟨q, hq⟩ := Option.isSome_iff_exists.mp (hall t ht u hut)
  cases hpre : u.isPreterminal <;> simp [hq, ruleParent?_of_production? hq, hpre]

/-- The frequencies of the rules with one parent add up to one, if every rule is listed once. -/
theorem sum_relativeFrequency (hall : ∀ t ∈ ts, ∀ u ∈ t.nodes, u.production?.isSome)
    {rules : List Production} (hnodup : rules.Nodup)
    (hmem : ∀ q, q ∈ rules ↔ q ∈ productionsOf ts ∧ (q.isBinary || q.isUnary)) {r : Production}
    (hr : r ∈ rules) :
    ((rules.filter fun q => q.parent = r.parent).map (relativeFrequency ts)).sum = 1 := by
  let qs := productionsOf ts
  let total := parentOccurrences ts r.parent
  have htotal : total = qs.countP fun q => q.ruleParent? = some r.parent := parentOccurrences_eq hall _
  have hpos : 0 < total := by
    rw [htotal, List.countP_pos_iff]
    refine ⟨r, ((hmem r).mp hr).1, ?_⟩
    rw [decide_eq_true_eq, Production.ruleParent?_eq, if_pos ((hmem r).mp hr).2]
  -- Each production of a rule with this parent stands once among the rules.
  have hperm : (rules.filter fun q => q.parent = r.parent).Perm
      (qs.dedup.filter fun q => q.ruleParent? = some r.parent) := by
    rw [List.perm_ext_iff_of_nodup (hnodup.filter _) ((List.nodup_dedup qs).filter _)]
    intro q
    rw [List.mem_filter, List.mem_filter, List.mem_dedup, hmem, Production.ruleParent?_eq]
    by_cases hrule : q.isBinary || q.isUnary <;> simp [hrule, qs]
  have hcount : ((rules.filter fun q => q.parent = r.parent).map fun q => qs.count q).sum = total := by
    rw [(hperm.map _).sum_eq, List.sum_map_count_dedup_filter_eq_countP, htotal]
  calc ((rules.filter fun q => q.parent = r.parent).map (relativeFrequency ts)).sum
      = ((rules.filter fun q => q.parent = r.parent).map fun q => (qs.count q : ℚ) * (total : ℚ)⁻¹).sum := by
        refine congrArg List.sum (List.map_congr_left fun q hq => ?_)
        have hparent : q.parent = r.parent := of_decide_eq_true (List.mem_filter.mp hq).2
        rw [relativeFrequency, occurrences_eq, hparent, div_eq_mul_inv]
    _ = (((rules.filter fun q => q.parent = r.parent).map fun q => qs.count q).sum : ℕ) * (total : ℚ)⁻¹ := by
        rw [List.sum_map_mul_right, Nat.cast_list_sum, List.map_map]
        rfl
    _ = 1 := by
        rw [hcount]
        exact mul_inv_cancel₀ (Nat.cast_ne_zero.mpr hpos.ne')

end Productions

/-! ### Estimates -/

section Estimates

open Productions

variable {σ ρ : Type} [Probability ρ] [LogScale σ ρ]

/-- The rules, written with labels, and their scores: binary rules, then unary ones. -/
def Grammar.labeledRules (g : Grammar σ) : List (Production × σ) :=
  g.binary.map (fun r => (r.production g, r.score)) ++ g.unary.map fun r => (r.production g, r.score)

/-- A grammar whose rules are the productions of a list, each at its first occurrence. -/
structure Grammar.Lists (g : Grammar σ) (qs : List Production) : Prop where
  binary : g.binary.map (·.production g) = (qs.filter Production.isBinary).eraseDups
  unary : g.unary.map (·.production g) = (qs.filter Production.isUnary).eraseDups

/-- A grammar whose rules are the productions of trees, scored by relative frequencies. -/
structure Grammar.IsEstimate (g : Grammar σ) (ts : List Tree) : Prop extends g.Lists (productionsOf ts) where
  nodup : g.vocabulary.labels.toList.Nodup
  proper : g.IsProper
  score : ∀ e ∈ g.labeledRules, e.2 = logShare (occurrences ts e.1) (parentOccurrences ts e.1.parent)
  frequency : ∀ e ∈ g.labeledRules, 0 < relativeFrequency ts e.1 ∧ relativeFrequency ts e.1 ≤ 1
  /-- The frequencies of the rules with one parent add up to one. -/
  sum : ∀ e ∈ g.labeledRules,
    ((g.labeledRules.filter fun d => d.1.parent = e.1.parent).map fun d => relativeFrequency ts d.1).sum = 1

namespace Grammar

variable {g : Grammar σ}

theorem map_fst_labeledRules (g : Grammar σ) :
    g.labeledRules.map Prod.fst = g.binary.map (·.production g) ++ g.unary.map (·.production g) := by
  rw [labeledRules, List.map_append, List.map_map, List.map_map]
  rfl

theorem forall_mem_labeledRules {P : Production × σ → Prop} :
    (∀ e ∈ g.labeledRules, P e) ↔
      (∀ r ∈ g.binary, P (r.production g, r.score)) ∧ ∀ r ∈ g.unary, P (r.production g, r.score) := by
  rw [labeledRules, List.forall_mem_append, List.forall_mem_map, List.forall_mem_map]

namespace Lists

variable {qs : List Production} (h : g.Lists qs)

include h

theorem mem_iff (q : Production) :
    q ∈ g.labeledRules.map Prod.fst ↔ q ∈ qs ∧ (q.isBinary || q.isUnary) := by
  rw [map_fst_labeledRules, h.binary, h.unary, List.mem_append, List.mem_eraseDups, List.mem_eraseDups,
    List.mem_filter, List.mem_filter, ← and_or_left, Bool.or_eq_true]

/-- No production has two rules. -/
theorem nodup_rules : (g.labeledRules.map Prod.fst).Nodup := by
  rw [map_fst_labeledRules, h.binary, h.unary, List.nodup_append]
  refine ⟨nodup_eraseDups _, nodup_eraseDups _, fun q hq r hr => ?_⟩
  rw [List.mem_eraseDups, List.mem_filter] at hq hr
  rintro rfl
  cases q with
  | tag l => exact Bool.false_ne_true hq.2
  | unary l m => exact Bool.false_ne_true hq.2
  | binary l m n => exact Bool.false_ne_true hr.2

end Lists

end Grammar

variable {v : Vocabulary} {ts : List Tree} {g : Grammar σ}

/-- The grammar of trees, under a vocabulary without duplicates, is that of their relative frequencies. -/
theorem isEstimate_of_induce (hv : v.labels.toList.Nodup) (h : Grammar.induce v ts = .ok g) :
    v.Grows g.vocabulary ∧ g.IsEstimate ts := by
  obtain ⟨hall, hg⟩ := induce_eq_ok_iff.mp h
  let qs := productionsOf ts
  have hcounted : Counted v qs (qs.foldl Productions.count (start v)) := counted_foldl v qs
  obtain ⟨heq, hproper⟩ := Grammar.isProper_of_ofRules? hg
  have hvoc : g.vocabulary = (qs.foldl Productions.count (start v)).vocabulary := by rw [heq]
  have hlists : g.Lists qs :=
    ⟨map_production_binary hcounted (listed_foldl v qs) hg, map_production_unary hcounted (listed_foldl v qs) hg⟩
  have hscored : ∀ e ∈ g.labeledRules, 0 < qs.count e.1 ∧ e.2 = logShare (qs.count e.1)
      (qs.countP fun q => q.ruleParent? = some e.1.parent) :=
    Grammar.forall_mem_labeledRules.mpr ⟨binary_scored hcounted hv hg, unary_scored hcounted hv hg⟩
  refine ⟨hvoc ▸ hcounted.grows, hlists, hvoc ▸ hcounted.nodup hv, hproper, fun e he => ?_, fun e he => ?_,
    fun e he => ?_⟩
  · rw [occurrences_eq, parentOccurrences_eq hall]
    exact (hscored e he).2
  · have hpos := (hscored e he).1
    have hrule := ((hlists.mem_iff e.1).mp (List.mem_map_of_mem he)).2
    have hle : qs.count e.1 ≤ qs.countP fun q => q.ruleParent? = some e.1.parent :=
      IsInduced.count_le (by rw [Production.ruleParent?_eq, if_pos hrule])
    rw [relativeFrequency, occurrences_eq, parentOccurrences_eq hall]
    exact ⟨div_pos (Nat.cast_pos.mpr hpos) (Nat.cast_pos.mpr (hpos.trans_le hle)),
      div_le_one_of_le₀ (Nat.cast_le.mpr hle) (Nat.cast_nonneg _)⟩
  · have hsum := sum_relativeFrequency hall hlists.nodup_rules hlists.mem_iff (List.mem_map_of_mem he)
    rw [List.filter_map, List.map_map] at hsum
    exact hsum

end Estimates

end Constituency
