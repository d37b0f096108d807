import Constituency.Chart.Fill
import Constituency.Proofs.Chart.Improvement
import Constituency.Proofs.Closure.Parents
import Constituency.Proofs.Grammar.Groups

/-!
# The candidates for a cell

All that binary rules can derive over a span comes in the order of split, left child and rule, and all
that the closure can derive from a layer in the order of children. A cell takes these candidates one
after the other (`binaryLayer_eq`, `applyClosure_eq`): those that are left out from the start, since
their left child or their child has not been found or since there is no chain, would never be taken.
-/
namespace Constituency.Chart

variable {σ : Type} [Score σ]

/-- What binary rules derive over one split, by left child and rule. -/
def splitCandidates (rules : List (BinaryRule σ)) (n split : Nat) (left right : Layer σ Symbol) :
    List (Candidate σ Split) :=
  (List.range n).flatMap fun x : Nat =>
    groupCandidates split left right ⟨x, Grammar.rulesOf rules x⟩

/-- What binary rules derive over a span, by split, left child and rule. -/
def binaryCandidates (c : Chart σ) (start stop : Nat) : List (Candidate σ Split) :=
  (List.range' (start + 1) (stop - start - 1)).flatMap fun split =>
    splitCandidates c.grammar.binary c.grammar.numSymbols split (c.cell start split).unary
      (c.cell split stop).unary

/-- What the closure derives from the score of a child. -/
def chainCandidate (closure : Closure σ) (source : Symbol → σ) (child x : Nat) :
    Candidate σ Symbol :=
  ⟨x, Score.add (closure.score x child) (source child), child⟩

/-- What the closure derives from the scores of all symbols, by child. -/
def chainCandidates (closure : Closure σ) (n : Nat) (source : Symbol → σ) :
    List (Candidate σ Symbol) :=
  (List.range n).flatMap fun child => (List.range n).map (chainCandidate closure source child)

theorem mem_groupCandidates {split : Nat} {left right : Layer σ Symbol} {g : LeftGroup σ}
    {c : Candidate σ Split} : c ∈ groupCandidates split left right g ↔ ∃ r ∈ g.rules,
      c = ⟨r.parent, Score.add (Score.add r.score (left.score g.left)) (right.score r.right),
        ⟨split, g.left, r.right, r.parent⟩⟩ := by
  simp [groupCandidates, eq_comm]

/-- What binary rules derive over a span are the scores of their children over its parts. -/
theorem mem_binaryCandidates {c : Chart σ} (hg : c.grammar.IsProper) {start stop : Nat}
    {d : Candidate σ Split} : d ∈ c.binaryCandidates start stop ↔
      ∃ r ∈ c.grammar.binary, ∃ split, start < split ∧ split < stop ∧
        d = ⟨r.parent, Score.add (Score.add r.score ((c.cell start split).unary.score r.left))
          ((c.cell split stop).unary.score r.right), ⟨split, r.left, r.right, r.parent⟩⟩ := by
  simp only [binaryCandidates, splitCandidates, List.mem_flatMap, mem_groupCandidates,
    Grammar.mem_rulesOf, List.mem_range'_1, List.mem_range]
  constructor
  · rintro ⟨split, ⟨hlo, hhi⟩, x, -, r, ⟨hr, hleft⟩, rfl⟩
    exact ⟨r, hr, split, by omega, by omega, by rw [hleft]⟩
  · rintro ⟨r, hr, split, hlo, hhi, rfl⟩
    obtain ⟨-, ⟨h₀, h₁⟩, -⟩ := hg.binary r hr
    obtain ⟨x, hx⟩ := Int.eq_ofNat_of_zero_le h₀
    refine ⟨split, ⟨hlo, by omega⟩, x, ?_, r, ⟨hr, hx⟩, by rw [hx]⟩
    rw [hx] at h₁
    exact Int.ofNat_lt.mp h₁

/-- What the closure derives for one symbol. -/
theorem filter_chainCandidates (closure : Closure σ) {n : Nat} (source : Symbol → σ) {x : Nat}
    (hx : x < n) : ((chainCandidates closure n source).filter fun c => c.symbol.toNat = x) =
      (List.range n).map fun child => chainCandidate closure source child x := by
  have hone : ((List.range n).filter fun p => p = x) = [x] := by
    have hcount := List.nodup_range.count (a := x) (l := List.range n)
    rw [if_pos (List.mem_range.mpr hx)] at hcount
    have hfilter := List.filter_beq (l := List.range n) x
    rw [hcount, List.replicate_one] at hfilter
    simpa [beq_eq_decide] using hfilter
  rw [chainCandidates, List.filter_flatMap, List.map_eq_flatMap]
  congr 1
  funext child
  rw [List.filter_map]
  exact congrArg (List.map (chainCandidate closure source child)) hone

section Order

variable [OrderedScore σ]

/-- A left child that has not been found derives nothing. -/
theorem foldl_groupCandidates_of_not_isFinite {left : Layer σ Symbol} {g : LeftGroup σ}
    (h : ¬ Score.isFinite (left.score g.left) = true) (split : Nat) (right : Layer σ Symbol)
    (l : Layer σ Split) : (groupCandidates split left right g).foldl Layer.relax l = l := by
  refine Layer.foldl_relax_bottom l _ fun c hc => ?_
  obtain ⟨r, -, rfl⟩ := mem_groupCandidates.mp hc
  rw [Score.eq_bottom_of_not_isFinite h, OrderedScore.add_bottom, OrderedScore.bottom_add]

/-- A child that has not been found derives nothing. -/
theorem foldl_chainCandidate_of_not_isFinite {source : Symbol → σ} {child : Nat}
    (h : ¬ Score.isFinite (source child) = true) (closure : Closure σ) (xs : List Nat)
    (l : Layer σ Symbol) : (xs.map (chainCandidate closure source child)).foldl Layer.relax l = l := by
  refine Layer.foldl_relax_bottom l _ fun c hc => ?_
  obtain ⟨x, -, rfl⟩ := List.mem_map.mp hc
  rw [chainCandidate, Score.eq_bottom_of_not_isFinite h, OrderedScore.add_bottom]

theorem combine_eq {g : Grammar σ} (hg : g.IsProper) (split : Nat) (left right : Layer σ Symbol)
    (l : Layer σ Split) : combine g.groups split left right l =
      (splitCandidates g.binary g.numSymbols split left right).foldl Layer.relax l := by
  unfold combine splitCandidates
  rw [hg.groups_eq, Grammar.foldl_groupByLeft fun r hr => (hg.binary r hr).2.1, List.foldl_flatMap]
  · congr 1
    funext l x
    by_cases hfound : Score.isFinite (left.score x) = true
    · rw [if_pos hfound, Layer.relaxAll_eq]
    · rw [if_neg hfound, foldl_groupCandidates_of_not_isFinite hfound]
  · intro l x
    simp [groupCandidates, Layer.relaxAll]

/-- A binary layer takes what rules derive in the order of split, left child and rule. -/
theorem binaryLayer_eq {c : Chart σ} (hg : c.grammar.IsProper) (start stop : Nat) :
    c.binaryLayer start stop = (c.binaryCandidates start stop).foldl Layer.relax
      (Layer.empty c.grammar.numSymbols) := by
  unfold binaryLayer binaryCandidates
  rw [List.foldl_flatMap]
  congr 1
  funext l split
  exact combine_eq hg _ _ _ l

theorem assignAll_closureCandidates {closure : Closure σ} {n : Nat} (hc : closure.IsProper n)
    {child : Nat} (hchild : child < n) (source : Symbol → σ) (l : Layer σ Symbol) :
    l.assignAll (closureCandidates closure child (source child)) =
      ((List.range n).map (chainCandidate closure source child)).foldl Layer.relax l := by
  unfold closureCandidates
  rw [hc.parentsOf_eq hchild, List.map_map, Layer.assignAll_eq, List.foldl_map, List.foldl_map,
    List.foldl_filter]
  · congr 1
    funext l x
    split_ifs with hsome
    · rfl
    · refine (Layer.relax_bottom l _ ?_).symm
      rw [Option.not_isSome_iff_eq_none] at hsome
      rw [chainCandidate, Closure.score_of_chain?_eq_none hsome, OrderedScore.bottom_add]
  · rw [List.pairwise_map]
    refine (List.pairwise_lt_range.filter _).imp fun hab => ?_
    simpa using Nat.ne_of_lt hab

/-- A closure is applied to the children in ascending order. -/
theorem applyClosure_eq {closure : Closure σ} {n : Nat} (hc : closure.IsProper n)
    (source : Symbol → σ) (l : Layer σ Symbol) : applyClosure closure n source l =
      (chainCandidates closure n source).foldl Layer.relax l := by
  unfold applyClosure chainCandidates
  rw [List.foldl_flatMap]
  refine List.foldl_ext _ _ _ fun l child hchild => ?_
  rw [List.mem_range] at hchild
  by_cases hfound : Score.isFinite (source child) = true
  · rw [if_pos hfound]
    exact assignAll_closureCandidates hc hchild source l
  · rw [if_neg hfound, foldl_chainCandidate_of_not_isFinite hfound]

end Order

end Constituency.Chart
