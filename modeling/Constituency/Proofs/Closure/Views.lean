import Constituency.Proofs.Closure.Parents
import Mathlib.Algebra.BigOperators.Group.List.Basic

/-!
# Views of a closure

A closure shows its chains by the symbols above a symbol with their scores (`parentsOf`), by the symbols that a chain
goes through (`chain?`), by single scores (`score`) and by their number (`size`). All of them show the same chains, and
no symbol stands above another one twice (`views_agree`). A score tells whether there is a chain unless a sum came
down to `bottom`, as a sum of doubles may (`not_mem_parentsOf_iff_lowRules`).
-/
namespace Constituency

namespace PairMap

variable {ν : Type} {m : PairMap ν} {n : Nat}

/-- A listing in rows repeats nothing if no row does and an entry says in which row it stands. -/
theorem nodup_rows {α β γ : Type} {as : List α} {row : α → List β} {entry : α → β → γ} (has : as.Nodup)
    (hrow : ∀ a ∈ as, (row a).Nodup) (hentry : ∀ a b a' b', entry a b = entry a' b' → a = a' ∧ b = b') :
    (as.flatMap fun a => (row a).map (entry a)).Nodup := by
  rw [List.nodup_flatMap]
  constructor
  · intro a ha
    exact (hrow a ha).map fun b b' heq => (hentry a b a b' heq).2
  · refine has.imp fun hne x hx hy => ?_
    obtain ⟨b, -, rfl⟩ := List.mem_map.mp hx
    obtain ⟨b', -, heq⟩ := List.mem_map.mp hy
    exact hne (hentry _ b' _ b heq).1.symm

theorem nodup_toList (m : PairMap ν) : m.toList.Nodup := by
  have hfirsts : m.firsts.Pairwise (· < ·) := Std.TreeMap.ordered_keys.imp Int.compare_eq_lt.1
  refine nodup_rows (hfirsts.imp fun hlt => hlt.ne) (fun a _ => nodup_of_ascending (m.row_ascending a)) ?_
  rintro a ⟨b, v⟩ a' ⟨b', v'⟩ heq
  simpa [and_assoc] using heq

/-- The entries, column by column. -/
def columns (m : PairMap ν) (n : Nat) : List ((Int × Int) × ν) :=
  (List.range n).flatMap fun b : Nat => (m.column b).map fun e => ((e.1, (b : Int)), e.2)

theorem nodup_columns (m : PairMap ν) (n : Nat) : (m.columns n).Nodup := by
  refine nodup_rows List.nodup_range (fun b _ => nodup_of_ascending (m.column_ascending b)) ?_
  rintro b ⟨a, v⟩ b' ⟨a', v'⟩ heq
  simp only [Prod.mk.injEq, Int.natCast_inj] at heq ⊢
  tauto

/-- The columns together hold all entries. -/
theorem mem_columns (h : ∀ k v, m.get? k = some v → 0 ≤ k.2 ∧ k.2 < n) {x : (Int × Int) × ν} :
    x ∈ m.columns n ↔ x ∈ m.toList := by
  obtain ⟨⟨a, b⟩, v⟩ := x
  rw [columns, mem_toList, List.mem_flatMap]
  constructor
  · rintro ⟨k, -, hx⟩
    obtain ⟨⟨p, w⟩, he, heq⟩ := List.mem_map.mp hx
    obtain ⟨⟨rfl, rfl⟩, rfl⟩ : (p = a ∧ (k : Int) = b) ∧ w = v := by simpa using heq
    exact mem_column.mp he
  · intro hget
    obtain ⟨hb, hn⟩ := h _ _ hget
    obtain ⟨k, rfl⟩ := Int.eq_ofNat_of_zero_le hb
    exact ⟨k, List.mem_range.mpr (Int.ofNat_lt.mp hn), List.mem_map.mpr ⟨(a, v), mem_column.mpr hget, rfl⟩⟩

/-- The entries can be counted column by column. -/
theorem size_eq_sum (h : ∀ k v, m.get? k = some v → 0 ≤ k.2 ∧ k.2 < n) :
    m.size = ((List.range n).map fun b : Nat => (m.column b).length).sum := by
  have hperm : m.toList.Perm (m.columns n) :=
    (List.perm_ext_iff_of_nodup m.nodup_toList (m.nodup_columns n)).mpr fun x => (mem_columns h).symm
  rw [size, hperm.length_eq, columns, List.length_flatMap]
  simp

end PairMap

/-- Sums of finite scores are finite, and `bottom` is not. -/
structure Score.StaysFinite (σ : Type) [Score σ] : Prop where
  zero : Score.isFinite (Score.zero : σ) = true
  add : ∀ a b : σ, Score.isFinite a = true → Score.isFinite b = true →
    Score.isFinite (Score.add a b) = true
  bottom : Score.isFinite (Score.bottom : σ) = false

theorem Score.staysFinite (σ : Type) [Score σ] [LawfulScore σ] : StaysFinite σ where
  zero := isFinite_eq_true.mpr zero_ne_bot
  add a b ha hb := by
    rw [isFinite_eq_true] at ha hb ⊢
    exact add_eq_bot.not.mpr (not_or.mpr ⟨ha, hb⟩)
  bottom := Bool.eq_false_iff.mpr fun h => isFinite_eq_true.mp h rfl

namespace Closure

variable {σ : Type} [Score σ] {n : Nat} {c : Closure σ}

/-- The views of a closure show the same chains, from upper ends in ascending order. -/
structure ViewsAgree (n : Nat) (c : Closure σ) : Prop where
  ascending : ∀ child < n, (c.parentsOf child).Pairwise fun d e => d.1 < e.1
  mem_iff : ∀ child < n, ∀ p s,
    (p, s) ∈ c.parentsOf child ↔ (c.chain? p child).isSome ∧ c.score p child = s
  identity : ∀ child < n,
    (c.parentsOf child).filter (fun e : Symbol × σ => e.1 = child) = [((child : Symbol), Score.zero)]
  irreflexive : ∀ p, c.chains.get? (p, p) = none
  size_eq : c.size = ((List.range n).map fun child => (c.parentsOf child).length).sum

theorem IsProper.ascending_parentsOf (h : c.IsProper n) {child : Nat} (hchild : child < n) :
    (c.parentsOf child).Pairwise fun d e => d.1 < e.1 := by
  rw [h.parentsOf_eq hchild, List.pairwise_map]
  exact (List.pairwise_lt_range.filter _).imp Int.ofNat_lt.mpr

omit [Score σ] in
/-- A chain starts at a symbol of the closure. -/
theorem IsProper.isSymbol_of_chain? (h : c.IsProper n) {child : Nat} (hchild : child < n) {p : Symbol}
    (hp : (c.chain? p child).isSome) : 0 ≤ p ∧ p < n := by
  by_cases hpc : p = child
  · rw [hpc]
    exact ⟨Int.natCast_nonneg child, Int.ofNat_lt.mpr hchild⟩
  · obtain ⟨path, hpath⟩ := Option.isSome_iff_exists.mp hp
    rw [chain?, if_neg fun hself => hpc hself.1, Option.map_eq_some_iff] at hpath
    obtain ⟨e, he, -⟩ := hpath
    exact (h.ends _ _ e he).2.1

/-- The symbols above a symbol are those from which a chain leads to it. -/
theorem IsProper.mem_parentsOf_iff (h : c.IsProper n) {child : Nat} (hchild : child < n) {p : Symbol} {s : σ} :
    (p, s) ∈ c.parentsOf child ↔ (c.chain? p child).isSome ∧ c.score p child = s := by
  rw [h.mem_parentsOf hchild]
  constructor
  · rintro ⟨hsome, -, -, rfl⟩
    exact ⟨hsome, rfl⟩
  · rintro ⟨hsome, rfl⟩
    obtain ⟨hp, hlt⟩ := h.isSymbol_of_chain? hchild hsome
    exact ⟨hsome, hp, hlt, rfl⟩

/-- A symbol stands above itself once, by the empty chain. -/
theorem IsProper.filter_parentsOf_self (h : c.IsProper n) {child : Nat} (hchild : child < n) :
    (c.parentsOf child).filter (fun e : Symbol × σ => e.1 = child) = [((child : Symbol), Score.zero)] := by
  refine eq_of_ascending ((h.ascending_parentsOf hchild).filter _) (List.pairwise_singleton _ _) ?_
  rintro ⟨p, s⟩
  rw [List.mem_filter, h.mem_parentsOf_iff hchild, decide_eq_true_eq, List.mem_singleton, Prod.mk.injEq]
  constructor
  · rintro ⟨⟨-, rfl⟩, rfl⟩
    exact ⟨rfl, h.score_self hchild⟩
  · rintro ⟨rfl, rfl⟩
    exact ⟨⟨by simp [chain?, h.hasSymbol_natCast hchild], h.score_self hchild⟩, rfl⟩

theorem length_parentsOf {child : Nat} (hchild : child < c.numSymbols) :
    (c.parentsOf child).length = (c.chains.column child).length + 1 := by
  rw [parentsOf, if_pos hchild]
  simp only [List.length_append, List.length_cons]
  rw [← Nat.add_assoc, ← List.length_append, List.takeWhile_append_dropWhile, List.length_map]

theorem IsProper.size_eq (h : c.IsProper n) :
    c.size = ((List.range n).map fun child => (c.parentsOf child).length).sum := by
  have hcolumns : c.chains.size = ((List.range n).map fun b : Nat => (c.chains.column b).length).sum :=
    PairMap.size_eq_sum fun k v hk => (h.ends _ _ v hk).2.2
  have hlength : (List.range n).map (fun child => (c.parentsOf child).length) =
      (List.range n).map fun child : Nat => (c.chains.column child).length + 1 :=
    List.map_congr_left fun child hchild =>
      length_parentsOf (h.numSymbols_eq ▸ List.mem_range.mp hchild)
  rw [size, hcolumns, hlength, h.numSymbols_eq, List.sum_map_add]
  simp

theorem IsProper.viewsAgree (h : c.IsProper n) : c.ViewsAgree n where
  ascending _ hchild := h.ascending_parentsOf hchild
  mem_iff _ hchild _ _ := h.mem_parentsOf_iff hchild
  identity _ hchild := h.filter_parentsOf_self hchild
  irreflexive p := Option.eq_none_iff_forall_ne_some.mpr fun e he => (h.ends p p e he).1 rfl
  size_eq := h.size_eq

/-- A score other than `bottom` is that of a chain. -/
theorem ViewsAgree.mem_iff_of_ne_bottom (h : c.ViewsAgree n) {child : Nat} (hchild : child < n) {p : Symbol}
    {s : σ} (hs : s ≠ Score.bottom) : (p, s) ∈ c.parentsOf child ↔ c.score p child = s := by
  rw [h.mem_iff child hchild, and_iff_right_iff_imp]
  rintro rfl
  by_contra hnone
  rw [Option.not_isSome_iff_eq_none] at hnone
  exact hs (score_of_chain?_eq_none hnone)

/-- Where sums stay finite, so do the scores of all chains of finite rules. -/
theorem isFinite_of_mem_parentsOf (hσ : Score.StaysFinite σ) {rules : List (UnaryRule σ)}
    (hf : ∀ r ∈ rules, Score.isFinite r.score = true) (h : Lists n rules c) {child : Nat} (hchild : child < n)
    {p : Symbol} {s : σ} (hs : (p, s) ∈ c.parentsOf child) : Score.isFinite s = true := by
  rcases (mem_parentsOf (h.numSymbols_eq ▸ hchild)).mp hs with heq | ⟨e, he, rfl⟩
  · obtain ⟨-, rfl⟩ := Prod.mk.inj heq
    exact hσ.zero
  · obtain ⟨best, hbest, hscore⟩ := h.exists_best he
    rw [← hscore]
    exact BestChains.get?_close (P := fun _ _ e => Score.isFinite e.score = true)
      (fun r hr => hf r (mem_properRules.mp hr).1)
      (fun _ _ _ _ _ _ hupper hlower => hσ.add _ _ hupper hlower) hbest

/-- The views of a closure of rules agree. A score other than `bottom` stands for a chain, and where sums of scores
stay finite, every chain of finite rules has such a score. -/
theorem views_agree {rules : List (UnaryRule σ)} (hS : AreSymbols n rules)
    (h : ofRules? n rules = .ok c) :
    c.ViewsAgree n ∧
    (∀ child < n, ∀ p s, s ≠ Score.bottom → ((p, s) ∈ c.parentsOf child ↔ c.score p child = s)) ∧
    (Score.StaysFinite σ → (∀ r ∈ rules, Score.isFinite r.score = true) → ∀ child < n, ∀ p s,
      ((p, s) ∈ c.parentsOf child ↔ c.score p child = s ∧ s ≠ Score.bottom)) := by
  have hviews := (isProper_of_ofRules? hS h).viewsAgree
  refine ⟨hviews, fun child hchild p s hs => hviews.mem_iff_of_ne_bottom hchild hs,
    fun hσ hf child hchild p s => ?_⟩
  constructor
  · intro hmem
    have hfinite := isFinite_of_mem_parentsOf hσ hf (lists_of_ofRules? h) hchild hmem
    have hs : s ≠ Score.bottom := by
      rintro rfl
      exact Bool.eq_false_iff.mp hσ.bottom hfinite
    exact ⟨(hviews.mem_iff_of_ne_bottom hchild hs).mp hmem, hs⟩
  · rintro ⟨hscore, hs⟩
    exact (hviews.mem_iff_of_ne_bottom hchild hs).mpr hscore

theorem views_agree_zeroCycle :
    AreSymbols 3 zeroCycle ∧ Score.StaysFinite ExactScore ∧
    (∀ r ∈ zeroCycle, Score.isFinite r.score = true) ∧
    ∃ c, ofRules? 3 zeroCycle = .ok c ∧ c.ViewsAgree 3 ∧
      c.parentsOf 2 = [(0, .value (-1)), (1, .value (-1)), (2, .value 0)] ∧
      ∀ child < 3, ∀ p s, (p, s) ∈ c.parentsOf child ↔ c.score p child = s ∧ s ≠ Score.bottom := by
  have hS : AreSymbols 3 zeroCycle := by simp [AreSymbols, zeroCycle]
  have hf : ∀ r ∈ zeroCycle, Score.isFinite r.score = true := by decide
  have hparents : (ofRules? 3 zeroCycle).toOption.map (·.parentsOf 2) =
      some [(0, .value (-1)), (1, .value (-1)), (2, .value 0)] := by decide +kernel
  cases h : ofRules? 3 zeroCycle with
  | error e => simp [h, Except.toOption] at hparents
  | ok c =>
    obtain ⟨hviews, -, hiff⟩ := views_agree hS h
    rw [h, Except.toOption, Option.map_some, Option.some.injEq] at hparents
    have hσ := Score.staysFinite ExactScore
    exact ⟨hS, hσ, hf, c, rfl, hviews, hparents, hiff hσ hf⟩

/-- Two rules, each of which has a finite double for its score, whose sum is too low for one. -/
def lowRules : List (UnaryRule Float) := [⟨0, 1, -1e308⟩, ⟨1, 2, -1e308⟩]

/-- Among doubles the sum of finite scores may be `bottom`, and the chain that has it is listed. -/
theorem not_mem_parentsOf_iff_lowRules :
    AreSymbols 3 lowRules ∧ (∀ r ∈ lowRules, Score.isFinite r.score = true) ∧
    ∃ c, ofRules? 3 lowRules = .ok c ∧
      ¬ ∀ child < 3, ∀ p s,
        (p, s) ∈ c.parentsOf child ↔ c.score p child = s ∧ s ≠ Score.bottom := by
  have hS : AreSymbols 3 lowRules := by simp [AreSymbols, lowRules]
  have hf : ∀ r ∈ lowRules, Score.isFinite r.score = true := by decide +kernel
  have hshown : (ofRules? 3 lowRules).toOption.map (fun c => (c.chain? 0 2, c.score 0 2)) =
      some (some [0, 1, 2], Score.bottom) := by decide +kernel
  cases h : ofRules? 3 lowRules with
  | error e => simp [h, Except.toOption] at hshown
  | ok c =>
    rw [h, Except.toOption, Option.map_some, Option.some.injEq, Prod.mk.injEq] at hshown
    obtain ⟨hchain, hscore⟩ := hshown
    refine ⟨hS, hf, c, rfl, fun hiff => ?_⟩
    have hmem : ((0 : Symbol), (Score.bottom : Float)) ∈ c.parentsOf 2 :=
      ((isProper_of_ofRules? hS h).mem_parentsOf_iff (by decide)).mpr
        ⟨Option.isSome_iff_exists.mpr ⟨_, hchain⟩, hscore⟩
    exact ((hiff 2 (by decide) 0 Score.bottom).mp hmem).2 rfl

end Closure

end Constituency
