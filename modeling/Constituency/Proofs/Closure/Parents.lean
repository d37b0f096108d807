import Constituency.Proofs.Closure.BestChain

/-!
# The upper ends of chains

A closure shows the chains to a symbol by their upper ends, the empty chain among the others in the
order of symbols. These are exactly the symbols that have a chain to it (`parentsOf_eq`).
-/
namespace Constituency

theorem nodup_of_ascending {ν : Type} {xs : List (Int × ν)} (h : xs.Pairwise fun d e => d.1 < e.1) :
    xs.Nodup :=
  h.imp fun hlt heq => hlt.ne (congrArg Prod.fst heq)

/-- Two listings in ascending order are the same when they hold the same. -/
theorem eq_of_ascending {ν : Type} {xs ys : List (Int × ν)} (hx : xs.Pairwise fun d e => d.1 < e.1)
    (hy : ys.Pairwise fun d e => d.1 < e.1) (h : ∀ e, e ∈ xs ↔ e ∈ ys) : xs = ys := by
  have hperm := (List.perm_ext_iff_of_nodup (nodup_of_ascending hx) (nodup_of_ascending hy)).mpr h
  exact hperm.eq_of_pairwise (fun a b _ _ hab hba => absurd (hab.trans hba) (lt_irrefl _)) hx hy

/-- What is set between the smaller and the greater entries of an ascending listing stands in order. -/
theorem ascending_between {ν : Type} {us : List (Int × ν)} (hus : us.Pairwise fun d e => d.1 < e.1)
    (a : Int) (v : ν) (hne : ∀ u ∈ us, u.1 ≠ a) :
    ((us.takeWhile fun u => u.1 < a) ++ (a, v) :: us.dropWhile fun u => u.1 < a).Pairwise
      fun d e => d.1 < e.1 := by
  induction us with
  | nil => simp
  | cons u us ih =>
    rw [List.pairwise_cons] at hus
    have hrest := ih hus.2 fun w hw => hne w (by simp [hw])
    by_cases hu : u.1 < a
    · simp only [List.takeWhile_cons, List.dropWhile_cons, hu, decide_true, if_true,
        List.cons_append, List.pairwise_cons]
      refine ⟨fun w hw => ?_, hrest⟩
      rcases List.mem_append.mp hw with hw | hw
      · exact hus.1 w ((List.takeWhile_sublist _).mem hw)
      · rcases List.mem_cons.mp hw with rfl | hw
        · exact hu
        · exact hus.1 w ((List.dropWhile_sublist _).mem hw)
    · have hau : a < u.1 := lt_of_le_of_ne (not_lt.mp hu) (hne u (by simp)).symm
      simp only [List.takeWhile_cons, List.dropWhile_cons, hu, decide_false, Bool.false_eq_true,
        if_false, List.nil_append, List.pairwise_cons]
      refine ⟨fun w hw => ?_, hus⟩
      rcases List.mem_cons.mp hw with rfl | hw
      · exact hau
      · exact hau.trans (hus.1 w hw)

namespace Closure

variable {σ : Type}

/-- The chains of a closure lead between different ones of its symbols. -/
structure IsProper (n : Nat) (c : Closure σ) : Prop where
  numSymbols_eq : c.numSymbols = n
  ends : ∀ p q e, c.chains.get? (p, q) = some e → p ≠ q ∧ (0 ≤ p ∧ p < n) ∧ 0 ≤ q ∧ q < n

theorem isProper_of_ofRules? [Score σ] {n : Nat} {rules : List (UnaryRule σ)}
    {c : Closure σ} (hS : AreSymbols n rules) (h : ofRules? n rules = .ok c) : c.IsProper n := by
  have hlists := lists_of_ofRules? h
  refine ⟨hlists.numSymbols_eq, fun p q e he => ?_⟩
  obtain ⟨best, hbest, -⟩ := hlists.exists_best he
  exact BestChains.ends_close (S := fun x => 0 ≤ x ∧ x < n) hS hbest

variable [Score σ] {n : Nat} {c : Closure σ}

omit [Score σ] in
theorem IsProper.hasSymbol_natCast (h : c.IsProper n) {k : Nat} (hk : k < n) :
    c.hasSymbol k = true := by
  simpa [hasSymbol, h.numSymbols_eq] using hk

theorem IsProper.score_self (h : c.IsProper n) {k : Nat} (hk : k < n) :
    c.score k k = Score.zero := by
  simp [score, h.hasSymbol_natCast hk]

theorem score_of_chain?_eq_none {p q : Symbol} (h : c.chain? p q = none) :
    c.score p q = Score.bottom := by
  unfold chain? at h
  unfold score
  split_ifs at h ⊢
  simp_all

/-- A chain to a symbol is the empty one or one of those that were found. -/
theorem mem_parentsOf {child : Nat} (hchild : child < c.numSymbols) {p : Symbol} {s : σ} :
    (p, s) ∈ c.parentsOf child ↔ (p, s) = ((child : Symbol), Score.zero) ∨
      ∃ e, c.chains.get? (p, child) = some e ∧ s = e.score := by
  unfold parentsOf
  rw [if_pos hchild]
  simp only [List.mem_append, List.mem_cons]
  rw [or_left_comm, ← List.mem_append, List.takeWhile_append_dropWhile]
  simp only [List.mem_map, Prod.mk.injEq]
  refine or_congr_right ⟨?_, ?_⟩
  · rintro ⟨⟨q, e⟩, he, rfl, rfl⟩
    exact ⟨e, PairMap.mem_column.mp he, rfl⟩
  · rintro ⟨e, he, rfl⟩
    exact ⟨(p, e), PairMap.mem_column.mpr he, rfl, rfl⟩

/-- The symbols that have a chain to a symbol are its parents. -/
theorem IsProper.mem_parentsOf (h : c.IsProper n) {child : Nat} (hchild : child < n) {p : Symbol}
    {s : σ} : (p, s) ∈ c.parentsOf child ↔
      (c.chain? p child).isSome ∧ 0 ≤ p ∧ p < n ∧ s = c.score p child := by
  rw [Closure.mem_parentsOf (h.numSymbols_eq ▸ hchild), Prod.mk.injEq]
  by_cases hpc : p = child
  · subst hpc
    have hnone : ∀ e, c.chains.get? ((child : Symbol), (child : Symbol)) ≠ some e :=
      fun e he => (h.ends _ _ e he).1 rfl
    simp [chain?, h.hasSymbol_natCast hchild, h.score_self hchild, hnone, hchild]
  · constructor
    · rintro (⟨rfl, -⟩ | ⟨e, he, rfl⟩)
      · exact absurd rfl hpc
      · obtain ⟨-, hp, -⟩ := h.ends _ _ e he
        exact ⟨by simp [chain?, hpc, he], hp.1, hp.2, by simp [score, hpc, he]⟩
    · rintro ⟨hsome, -, -, rfl⟩
      obtain ⟨path, hpath⟩ := Option.isSome_iff_exists.mp hsome
      simp only [chain?, hpc, false_and, if_false, Option.map_eq_some_iff] at hpath
      obtain ⟨e, he, -⟩ := hpath
      exact Or.inr ⟨e, he, by simp [score, hpc, he]⟩

/-- The chains to a symbol in ascending order of their upper ends. -/
theorem IsProper.parentsOf_eq (h : c.IsProper n) {child : Nat} (hchild : child < n) :
    c.parentsOf child =
      ((List.range n).filter fun p : Nat => (c.chain? p child).isSome).map fun p : Nat =>
        ((p : Symbol), c.score p child) := by
  refine eq_of_ascending ?_ ?_ ?_
  · unfold parentsOf
    rw [if_pos (h.numSymbols_eq ▸ hchild)]
    refine ascending_between ?_ _ _ ?_
    · exact List.pairwise_map.mpr (c.chains.column_ascending child)
    · intro u hu
      obtain ⟨⟨p, e⟩, he, rfl⟩ := List.mem_map.mp hu
      exact (h.ends p child e (PairMap.mem_column.mp he)).1
  · rw [List.pairwise_map]
    exact (List.pairwise_lt_range.filter _).imp Int.ofNat_lt.mpr
  · rintro ⟨p, s⟩
    rw [h.mem_parentsOf hchild]
    simp only [List.mem_map, List.mem_filter, List.mem_range, Prod.mk.injEq]
    constructor
    · rintro ⟨hsome, hp, hlt, rfl⟩
      obtain ⟨k, rfl⟩ := Int.eq_ofNat_of_zero_le hp
      exact ⟨k, ⟨Int.ofNat_lt.mp hlt, hsome⟩, rfl, rfl⟩
    · rintro ⟨k, ⟨hk, hsome⟩, rfl, rfl⟩
      exact ⟨hsome, Int.natCast_nonneg k, Int.ofNat_lt.mpr hk, rfl⟩

end Closure

end Constituency
