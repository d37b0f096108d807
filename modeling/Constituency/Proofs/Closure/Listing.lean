import Constituency.Proofs.Closure.Rounds
import Mathlib.Data.List.Perm.Subperm
import Mathlib.Data.List.Nodup

/-!
# The closure of all rules

After the rounds every symbol of a rule has been admitted (`admitted_close`), so no chain at all is
better than what has been found. Listing the chains then succeeds: a chain that unfolds into rules
without coming back to a symbol is short enough for its listing never to be given up
(`chainOf?_eq`).
-/
namespace Constituency

namespace PairMap

variable {ν : Type} {m : PairMap ν} {a b : Int} {v : ν}

theorem mem_firsts_of_get? (h : m.get? (a, b) = some v) : a ∈ m.firsts := by
  rw [firsts, Std.TreeMap.mem_keys]
  by_contra ha
  simp [get?, Rows.read?, Rows.row, Std.TreeMap.getD_eq_fallback ha] at h

theorem mem_seconds_of_get? (h : m.get? (a, b) = some v) : b ∈ m.seconds := by
  rw [seconds, Std.TreeMap.mem_keys]
  by_contra hb
  rw [get?, m.agree] at h
  simp [Rows.read?, Rows.row, Std.TreeMap.getD_eq_fallback hb] at h

end PairMap

namespace BestChains

variable {σ : Type} [Score σ]

omit [Score σ] in
theorem mem_symbols {b : BestChains σ} {p c : Symbol} {e : BestChain σ}
    (h : b.get? (p, c) = some e) : p ∈ b.symbols ∧ c ∈ b.symbols := by
  have hp := PairMap.mem_firsts_of_get? h
  have hc := PairMap.mem_seconds_of_get? h
  simp only [symbols, Std.TreeSet.mem_toList, Std.TreeSet.mem_ofList, List.contains_eq_mem,
    List.mem_append, decide_eq_true_eq]
  exact ⟨Or.inl hp, Or.inr hc⟩

theorem isListed_ofRules (rules : List (UnaryRule σ)) : (ofRules rules).IsListed := by
  rw [ofRules_eq]
  exact isListed_empty.offerAll _

/-- What every round keeps holds after all rounds. -/
theorem close_of_through {P : BestChains σ → Prop} {b : BestChains σ} (h : P b)
    (hround : ∀ b m, P b → P (b.through m)) : P b.close :=
  List.foldlRecOn b.symbols through h fun b hb m _ => hround b m hb

theorem isListed_close {b : BestChains σ} (h : b.IsListed) : b.close.IsListed := by
  refine close_of_through h fun b m hb => ?_
  rw [through_eq]
  exact hb.offerAll _

/-- A chain of one rule is a proper rule. -/
theorem get?_ofRules {rules : List (UnaryRule σ)} {p c : Symbol} {e : BestChain σ}
    (h : (ofRules rules).get? (p, c) = some e) :
    ∃ r ∈ properRules rules, r.parent = p ∧ r.child = c ∧ e = ⟨r.score, none⟩ := by
  rw [ofRules_eq] at h
  rcases get?_or_mem_of_offerAll h with he | he
  · simp [empty, get?] at he
  · obtain ⟨r, hr, heq⟩ := List.mem_map.mp he
    simp only [Prod.mk.injEq] at heq
    exact ⟨r, hr, heq.1.1, heq.1.2, heq.2.symm⟩

/-- What holds of the chains of one rule and of chains that meet holds of all that are found. -/
theorem get?_close {rules : List (UnaryRule σ)} {P : Symbol → Symbol → BestChain σ → Prop}
    (hrule : ∀ r ∈ properRules rules, P r.parent r.child ⟨r.score, none⟩)
    (hjoin : ∀ p m c upper lower, p ≠ c → P p m upper → P m c lower →
      P p c ⟨Score.add upper.score lower.score, some m⟩)
    {p c : Symbol} {e : BestChain σ} (h : (ofRules rules).close.get? (p, c) = some e) : P p c e := by
  have hrules : ∀ p c e, (ofRules rules).get? (p, c) = some e → P p c e := by
    intro p c e he
    obtain ⟨r, hr, rfl, rfl, rfl⟩ := get?_ofRules he
    exact hrule r hr
  refine close_of_through (P := fun b => ∀ p c e, b.get? (p, c) = some e → P p c e) hrules
    (fun b m hb p c e he => ?_) p c e h
  rw [through_eq] at he
  rcases get?_or_mem_of_offerAll he with he | he
  · exact hb p c e he
  · obtain ⟨upper, lower, hupper, hlower, hne, rfl⟩ := mem_joins.mp he
    exact hjoin p m c upper lower hne (hb _ _ _ hupper) (hb _ _ _ hlower)

/-- The chains found at any time lead between symbols of proper rules, and to a different one. -/
theorem ends_close {rules : List (UnaryRule σ)} {S : Symbol → Prop}
    (hS : ∀ r ∈ rules, S r.parent ∧ S r.child) {p c : Symbol} {e : BestChain σ}
    (h : (ofRules rules).close.get? (p, c) = some e) : p ≠ c ∧ S p ∧ S c := by
  refine get?_close (P := fun p c _ => p ≠ c ∧ S p ∧ S c) (fun r hr => ?_)
    (fun p m c _ _ hne hupper hlower => ⟨hne, hupper.2.1, hlower.2.2⟩) h
  obtain ⟨hmem, hne⟩ := mem_properRules.mp hr
  exact ⟨hne, hS r hmem⟩

section Order

variable [OrderedScore σ]

theorem le_ofRules {rules : List (UnaryRule σ)} {r : UnaryRule σ} (h : r ∈ properRules rules) :
    ∃ e, (ofRules rules).get? (r.parent, r.child) = some e ∧ r.score ≤ e.score := by
  rw [ofRules_eq, get?_offerAll]
  refine foldl_better (o := ⟨r.score, none⟩) (Or.inr ?_)
  simp only [ruleOffers, List.mem_map, List.mem_filter, decide_eq_true_eq]
  exact ⟨((r.parent, r.child), ⟨r.score, none⟩), ⟨⟨r, h, rfl⟩, rfl⟩, rfl⟩

end Order

section Laws

variable [LawfulScore σ] {rules : List (UnaryRule σ)} {admitted : Set Symbol} {b : BestChains σ}

theorem admitted_ofRules (rules : List (UnaryRule σ)) : Admitted rules ∅ (ofRules rules) where
  unfolds p c e he := by
    obtain ⟨r, hr, rfl, rfl, rfl⟩ := get?_ofRules he
    refine ⟨[r], .rule hr rfl rfl he, ?_⟩
    simpa [symbolsFrom] using (mem_properRules.mp hr).2
  rule_le r hr := by
    obtain ⟨e, he, hle⟩ := le_ofRules hr
    rwa [reach_of_get? (mem_properRules.mp hr).2 he]
  detour_le m hm := absurd hm (Set.notMem_empty m)

theorem Admitted.rounds (h : Admitted rules admitted b) (hf : ∀ r ∈ rules, r.score ≠ ⊥)
    (hc : NoPositiveCycle (properRules rules)) (ms : List Symbol) :
    Admitted rules (admitted ∪ {m | m ∈ ms}) (ms.foldl BestChains.through b) := by
  induction ms generalizing admitted b with
  | nil => simpa using h
  | cons m ms ih =>
    have hset : admitted ∪ {k | k ∈ m :: ms} = insert m admitted ∪ {k | k ∈ ms} := by
      ext k
      simp only [Set.mem_union, Set.mem_ofPred_eq, List.mem_cons, Set.mem_insert_iff]
      tauto
    rw [hset]
    exact ih (h.through hf hc m)

/-- In the end all symbols of proper rules are admitted. -/
theorem admitted_close (hf : ∀ r ∈ rules, r.score ≠ ⊥)
    (hc : NoPositiveCycle (properRules rules)) :
    Admitted rules {m | m ∈ (ofRules rules).symbols} (ofRules rules).close := by
  simpa [close] using (admitted_ofRules rules).rounds hf hc (ofRules rules).symbols

theorem child_mem_symbols {r : UnaryRule σ} (h : r ∈ properRules rules) :
    r.child ∈ (ofRules rules).symbols := by
  obtain ⟨e, he, -⟩ := le_ofRules h
  exact (mem_symbols he).2

/-- No chain of proper rules is better than what has been found in the end. -/
theorem total_le_reach_close (hf : ∀ r ∈ rules, r.score ≠ ⊥)
    (hc : NoPositiveCycle (properRules rules)) {p c : Symbol} {rs : List (UnaryRule σ)}
    (hm : ∀ r ∈ rs, r ∈ properRules rules) (hl : Leads p rs c) :
    total rs ≤ (ofRules rules).close.reach p c :=
  (admitted_close hf hc).total_le_reach hm (fun r hr => Or.inl (child_mem_symbols (hm r hr))) hl

/-- Taking a chain apart takes one step for every rule and one for every place where parts meet. -/
theorem unfold_eq {p c : Symbol} {rs : List (UnaryRule σ)} (h : Unfolds rules admitted b p c rs)
    (limit fuel : Nat) (pending : List Ends) (chain : List Symbol)
    (hlen : chain.length + rs.length ≤ limit) :
    b.unfold limit (fuel + 2 * rs.length) ((p, c) :: pending) chain =
      b.unfold limit (fuel + 1) pending ((rs.map (·.child)).reverse ++ chain) := by
  induction h generalizing fuel pending chain with
  | @rule p c r hm hp hc hf =>
    have hmeet : b.meet? (p, c) = none := by simp [meet?, hf]
    simp only [List.length_singleton] at hlen
    simp [unfold, hmeet, hc, Nat.not_lt.mpr hlen]
  | @join p m c as bs hm hf ha hb iha ihb =>
    have hmeet : b.meet? (p, c) = some m := by simp [meet?, hf]
    have hpos := List.length_pos_iff.mpr hb.ne_nil
    simp only [List.length_append] at hlen
    obtain ⟨k, hk⟩ : ∃ k, fuel + 2 * bs.length = k + 1 := ⟨fuel + 2 * bs.length - 1, by omega⟩
    have hfuel : fuel + 2 * (as ++ bs).length = k + 2 * as.length + 1 := by
      simp only [List.length_append]
      omega
    rw [hfuel, unfold, hmeet]
    simp only
    rw [iha k _ _ (by omega), ← hk, ihb fuel _ _ (by simp; omega)]
    simp

/-- A list of symbols without repetition has no more entries than there are symbols. -/
theorem length_symbols_le {n : Nat} {xs : List Symbol} (hn : xs.Nodup)
    (hx : ∀ x ∈ xs, 0 ≤ x ∧ x < n) : xs.length ≤ n := by
  have hsub : xs ⊆ (List.range n).map Int.ofNat := by
    intro x hxs
    obtain ⟨h₀, h₁⟩ := hx x hxs
    exact List.mem_map.mpr ⟨x.toNat, List.mem_range.mpr (Int.toNat_lt h₀ |>.mpr h₁), by simp [h₀]⟩
  simpa using (hn.subperm hsub).length_le

/-- A chain without repeated symbols is listed by its symbols. -/
theorem chainOf?_eq {n : Nat}
    (hS : ∀ r ∈ rules, (0 ≤ r.parent ∧ r.parent < n) ∧ 0 ≤ r.child ∧ r.child < n) {p c : Symbol}
    {rs : List (UnaryRule σ)} (h : Unfolds rules admitted b p c rs)
    (hn : (symbolsFrom p rs).Nodup) : b.chainOf? n (p, c) = some (symbolsFrom p rs) := by
  have hlen : (symbolsFrom p rs).length ≤ n := by
    refine length_symbols_le hn fun x hx => ?_
    rcases List.mem_cons.mp hx with rfl | hx
    · obtain ⟨r, rs', rfl⟩ := List.exists_cons_of_ne_nil h.ne_nil
      have hr := mem_properRules.mp (h.mem_rules r (by simp))
      rw [← h.leads.1]
      exact (hS r hr.1).1
    · obtain ⟨r, hr, rfl⟩ := List.mem_map.mp hx
      exact (hS r (mem_properRules.mp (h.mem_rules r hr)).1).2
  simp only [symbolsFrom, List.length_cons, List.length_map] at hlen
  obtain ⟨fuel, hfuel⟩ : ∃ fuel, (n + 3) * (b.found.length + 2) = fuel + 2 * rs.length := by
    refine ⟨(n + 3) * (b.found.length + 2) - 2 * rs.length, ?_⟩
    have : (n + 3) * 2 ≤ (n + 3) * (b.found.length + 2) := Nat.mul_le_mul_left _ (by omega)
    omega
  rw [chainOf?, hfuel, unfold_eq h _ _ _ _ (by simp; omega)]
  simp [unfold, symbolsFrom]

end Laws

end BestChains

end Constituency
