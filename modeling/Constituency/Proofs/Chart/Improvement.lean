import Constituency.Chart.Basic
import Constituency.Proofs.Score
import Mathlib.Data.List.Induction

/-!
# Improving a layer

What happens to the item of a symbol depends on the candidates for this symbol only
(`item_foldl_relax`). When several candidates are taken one after the other, the item holds the first
one of the best in the end, unless it was as good before (`isFirstBest_foldl`). Comparing all candidates
with the layer as it was at first changes nothing (`relaxAll_eq`), nor does leaving out the second
comparison when their symbols are different (`assignAll_eq`).
-/
namespace Constituency

variable {σ β : Type} [Score σ]

/-- Take a candidate for the symbol of an item if it is an improvement. -/
def Item.improve (it : Item σ β) (c : Candidate σ β) : Item σ β :=
  if Score.lt it.score c.score then ⟨c.score, some c.back⟩ else it

/-- What becomes of an item to which candidates are offered: the first one of the best candidates, unless
none is strictly greater than the item was. -/
def Item.IsFirstBest [OrderedScore σ] (old : Item σ β) (cs : List (Candidate σ β))
    (new : Item σ β) : Prop :=
  (new = old ∧ ∀ c ∈ cs, c.score ≤ old.score) ∨
  ∃ before c after, cs = before ++ c :: after ∧ new = ⟨c.score, some c.back⟩ ∧
    old.score < c.score ∧ (∀ d ∈ before, d.score < c.score) ∧ ∀ d ∈ after, d.score ≤ c.score

namespace Item

variable [OrderedScore σ]

theorem improve_of_lt {it : Item σ β} {c : Candidate σ β} (h : it.score < c.score) :
    it.improve c = ⟨c.score, some c.back⟩ :=
  if_pos (Score.lt_iff.mpr h)

theorem improve_of_le {it : Item σ β} {c : Candidate σ β} (h : c.score ≤ it.score) :
    it.improve c = it :=
  if_neg (Score.lt_iff.not.mpr (not_lt.mpr h))

theorem isFirstBest_foldl (old : Item σ β) (cs : List (Candidate σ β)) :
    old.IsFirstBest cs (cs.foldl improve old) := by
  induction cs using List.reverseRecOn with
  | nil => exact Or.inl ⟨rfl, by simp⟩
  | append_singleton cs c ih =>
    rw [List.foldl_append, List.foldl_cons, List.foldl_nil]
    rcases ih with ⟨hnew, hle⟩ | ⟨before, b, after, rfl, hnew, hold, hbefore, hafter⟩
    · rw [hnew]
      by_cases hlt : old.score < c.score
      · rw [improve_of_lt hlt]
        exact Or.inr ⟨cs, c, [], rfl, rfl, hlt, fun d hd => (hle d hd).trans_lt hlt, by simp⟩
      · rw [improve_of_le (not_lt.mp hlt)]
        refine Or.inl ⟨rfl, fun d hd => ?_⟩
        rcases List.mem_append.mp hd with hd | hd
        · exact hle d hd
        · rw [List.mem_singleton.mp hd]
          exact not_lt.mp hlt
    · rw [hnew]
      by_cases hlt : b.score < c.score
      · rw [improve_of_lt hlt]
        refine Or.inr ⟨before ++ b :: after, c, [], rfl, rfl, hold.trans hlt, fun d hd => ?_, by simp⟩
        rcases List.mem_append.mp hd with hd | hd
        · exact (hbefore d hd).trans hlt
        · rcases List.mem_cons.mp hd with rfl | hd
          · exact hlt
          · exact (hafter d hd).trans_lt hlt
      · rw [improve_of_le (not_lt.mp hlt)]
        refine Or.inr ⟨before, b, after ++ [c], by simp, rfl, hold, hbefore, fun d hd => ?_⟩
        rcases List.mem_append.mp hd with hd | hd
        · exact hafter d hd
        · rw [List.mem_singleton.mp hd]
          exact not_lt.mp hlt

section IsFirstBest

variable {old new : Item σ β} {cs : List (Candidate σ β)}

theorem IsFirstBest.le (h : old.IsFirstBest cs new) {c : Candidate σ β} (hc : c ∈ cs) :
    c.score ≤ new.score := by
  rcases h with ⟨rfl, hle⟩ | ⟨before, b, after, rfl, rfl, -, hbefore, hafter⟩
  · exact hle c hc
  · rcases List.mem_append.mp hc with hc | hc
    · exact (hbefore c hc).le
    · rcases List.mem_cons.mp hc with rfl | hc
      · exact le_rfl
      · exact hafter c hc

theorem IsFirstBest.eq_or_mem (h : old.IsFirstBest cs new) :
    new = old ∨ ∃ c ∈ cs, old.score < c.score ∧ new = ⟨c.score, some c.back⟩ := by
  rcases h with ⟨rfl, -⟩ | ⟨before, c, after, rfl, rfl, hold, -⟩
  · exact Or.inl rfl
  · exact Or.inr ⟨c, by simp, hold, rfl⟩

end IsFirstBest

/-- Candidates that are not above an earlier score of an item need not be offered to it. -/
theorem foldl_improve_filter (s : σ) (it : Item σ β) (hs : s ≤ it.score)
    (cs : List (Candidate σ β)) :
    (cs.filter fun c => Score.lt s c.score).foldl improve it = cs.foldl improve it := by
  induction cs generalizing it with
  | nil => rfl
  | cons c cs ih =>
    have hmono : s ≤ (it.improve c).score := by
      unfold improve
      split_ifs with h
      · exact hs.trans (Score.lt_iff.mp h).le
      · exact hs
    rw [List.filter_cons]
    split_ifs with h
    · exact ih _ hmono
    · rw [Score.lt_iff, not_lt] at h
      rw [List.foldl_cons, improve_of_le (h.trans hs)]
      exact ih it hs

end Item

namespace Layer

theorem score_eq (l : Layer σ β) (x : Symbol) : l.score x = (l.item x.toNat).score := by
  unfold score item
  rw [Array.getD_eq_getD_getElem?]
  cases l[x.toNat]? <;> rfl

/-- Layers with the same items are the same. -/
theorem ext_item {l m : Layer σ β} (hsize : l.size = m.size)
    (h : ∀ k < l.size, l.item k = m.item k) : l = m := by
  refine Array.ext hsize fun k hl hm => ?_
  simpa [item, hl, hm] using h k hl

@[simp] theorem size_empty (n : Nat) : (empty n : Layer σ β).size = n := by simp [empty]

@[simp] theorem item_empty (n k : Nat) : (empty n : Layer σ β).item k = ⟨Score.bottom, none⟩ := by
  unfold empty item
  by_cases h : k < n <;> simp [h]

omit [Score σ] in
@[simp] theorem size_assign (l : Layer σ β) (c : Candidate σ β) : (l.assign c).size = l.size := by
  simp [assign]

@[simp] theorem item_assign (l : Layer σ β) (c : Candidate σ β) {k : Nat} (hk : k < l.size) :
    (l.assign c).item k = if c.symbol.toNat = k then ⟨c.score, some c.back⟩ else l.item k := by
  unfold assign item
  by_cases h : c.symbol.toNat = k
  · subst h
    simp [hk]
  · simp [hk, h]

@[simp] theorem size_relax (l : Layer σ β) (c : Candidate σ β) : (l.relax c).size = l.size := by
  unfold relax
  split_ifs <;> simp

theorem item_relax (l : Layer σ β) (c : Candidate σ β) {k : Nat} (hk : k < l.size) :
    (l.relax c).item k = if c.symbol.toNat = k then (l.item k).improve c else l.item k := by
  unfold relax beats Item.improve
  rw [score_eq]
  split_ifs with hlt hck hck
  all_goals simp_all

@[simp] theorem size_foldl_relax (l : Layer σ β) (cs : List (Candidate σ β)) :
    (cs.foldl relax l).size = l.size := by
  induction cs generalizing l with
  | nil => rfl
  | cons c cs ih => rw [List.foldl_cons, ih, size_relax]

/-- The item of a symbol depends on the candidates for this symbol only. -/
theorem item_foldl_relax (l : Layer σ β) (cs : List (Candidate σ β)) {k : Nat} (hk : k < l.size) :
    Layer.item (cs.foldl relax l) k =
      (cs.filter fun c => c.symbol.toNat = k).foldl Item.improve (l.item k) := by
  induction cs generalizing l with
  | nil => rfl
  | cons c cs ih =>
    rw [List.foldl_cons, ih _ (by simpa using hk), item_relax l c hk, List.filter_cons]
    by_cases hck : c.symbol.toNat = k <;> simp [hck]

section Order

variable [OrderedScore σ]

theorem isFirstBest_foldl_relax (l : Layer σ β) (cs : List (Candidate σ β)) {k : Nat}
    (hk : k < l.size) :
    (l.item k).IsFirstBest (cs.filter fun c => c.symbol.toNat = k)
      (Layer.item (cs.foldl relax l) k) := by
  rw [item_foldl_relax l cs hk]
  exact Item.isFirstBest_foldl _ _

/-- What cannot be derived is no improvement. -/
theorem relax_bottom (l : Layer σ β) (c : Candidate σ β) (h : c.score = Score.bottom) :
    l.relax c = l := by
  unfold relax beats
  rw [h, OrderedScore.not_lt_bottom]
  rfl

theorem foldl_relax_bottom (l : Layer σ β) (cs : List (Candidate σ β))
    (h : ∀ c ∈ cs, c.score = Score.bottom) : cs.foldl relax l = l := by
  induction cs with
  | nil => rfl
  | cons c cs ih =>
    rw [List.foldl_cons, relax_bottom l c (h c (by simp))]
    exact ih fun d hd => h d (by simp [hd])

/-- Only the second one of the two comparisons counts. -/
theorem relaxAll_eq (l : Layer σ β) (cs : List (Candidate σ β)) :
    l.relaxAll cs = cs.foldl relax l := by
  refine ext_item (by simp [relaxAll]) fun k hk => ?_
  simp only [relaxAll, size_foldl_relax] at hk
  rw [relaxAll, item_foldl_relax l _ hk, item_foldl_relax l _ hk,
    ← Item.foldl_improve_filter (l.item k).score (l.item k) le_rfl
      (cs.filter fun c => c.symbol.toNat = k)]
  congr 1
  simp only [List.filter_filter]
  refine List.filter_congr fun c _ => ?_
  by_cases hck : c.symbol.toNat = k
  · subst hck
    simp [beats, score_eq]
  · simp [hck]

end Order

theorem score_relax_of_ne (l : Layer σ β) {c d : Candidate σ β}
    (h : c.symbol.toNat ≠ d.symbol.toNat) : (l.relax c).score d.symbol = l.score d.symbol := by
  rw [score_eq, score_eq]
  by_cases hk : d.symbol.toNat < l.size
  · rw [item_relax l c hk, if_neg h]
  · simp [item, hk]

/-- Of candidates for different symbols each one is compared with what stood there at first. -/
theorem assignAll_eq (l : Layer σ β) (cs : List (Candidate σ β))
    (h : cs.Pairwise fun c d => c.symbol.toNat ≠ d.symbol.toNat) :
    l.assignAll cs = cs.foldl relax l := by
  suffices hfold : ∀ m : Layer σ β, (∀ c ∈ cs, m.score c.symbol = l.score c.symbol) →
      (cs.filter l.beats).foldl assign m = cs.foldl relax m from hfold l fun _ _ => rfl
  induction cs with
  | nil => exact fun _ _ => rfl
  | cons c cs ih =>
    intro m hm
    rw [List.pairwise_cons] at h
    have hbeats : l.beats c = m.beats c := by rw [beats, beats, hm c (by simp)]
    have hrest : ∀ d ∈ cs, (m.relax c).score d.symbol = l.score d.symbol := fun d hd => by
      rw [score_relax_of_ne m (h.1 d hd), hm d (by simp [hd])]
    have hfold := ih h.2 (m.relax c) hrest
    rw [List.foldl_cons, ← hfold, List.filter_cons, hbeats, relax]
    split_ifs <;> rfl

end Layer

end Constituency
