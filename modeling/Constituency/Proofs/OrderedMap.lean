import Constituency.OrderedMap
import Mathlib.Algebra.BigOperators.Group.Finset.Basic
import Mathlib.Data.List.Nodup
import Mathlib.Order.Basic

/-!
# Laws of ordered maps

The entries of a map without repeated keys are the values that can be read. A map that was counted up
from nothing lists exactly the keys with a count (`OrderedMap.IsCounted.mem_entries`).
-/
namespace Constituency

namespace OrderedMap

variable {κ ν : Type} [DecidableEq κ]

/-- The entries of a map without repeated keys are the values that can be read. -/
theorem mem_entries {m : OrderedMap κ ν} (h : m.keys.Nodup) {k : κ} {v : ν} :
    (k, v) ∈ m.entries ↔ m.get? k = some v := by
  obtain ⟨es⟩ := m
  simp only [keys, get?] at h ⊢
  induction es with
  | nil => simp [find]
  | cons e es ih =>
    rw [List.map_cons, List.nodup_cons] at h
    rw [List.mem_cons, ih h.2, find]
    by_cases hk : e.1 = k
    · have hnone : find k es ≠ some v := fun hv =>
        h.1 (hk ▸ List.mem_map_of_mem ((ih h.2).mpr hv))
      rw [if_pos hk, Option.some.injEq]
      constructor
      · rintro (rfl | hv)
        · rfl
        · exact absurd hv hnone
      · rintro rfl
        exact Or.inl (Prod.ext hk.symm rfl)
    · rw [if_neg hk]
      constructor
      · rintro (rfl | hv)
        · exact absurd rfl hk
        · exact hv
      · exact Or.inr

theorem nodup_keys_alter {m : OrderedMap κ ν} (h : m.keys.Nodup) (k : κ) (f : Option ν → ν) :
    (m.alter k f).keys.Nodup := by
  rw [keys_alter]
  split_ifs with hk
  · exact h
  · refine List.nodup_append.mpr ⟨h, by simp, fun a ha b hb => ?_⟩
    rintro rfl
    rw [List.mem_singleton] at hb
    subst hb
    obtain ⟨⟨_, v⟩, he, rfl⟩ := List.mem_map.mp ha
    exact hk (by simp [contains, (mem_entries h).mp he])

theorem get?_of_not_mem {m : OrderedMap κ ν} {k : κ} (h : k ∉ m.keys) : m.get? k = none := by
  obtain ⟨es⟩ := m
  simp only [keys, get?] at h ⊢
  induction es with
  | nil => rfl
  | cons e es ih =>
    rw [List.map_cons, List.mem_cons, not_or] at h
    rw [find, if_neg (Ne.symm h.1), ih h.2]

theorem contains_iff_mem_keys {m : OrderedMap κ ν} {k : κ} : m.contains k = true ↔ k ∈ m.keys := by
  obtain ⟨es⟩ := m
  simp only [contains, keys, get?]
  induction es with
  | nil => simp [find]
  | cons e es ih =>
    rw [find, List.map_cons, List.mem_cons]
    by_cases hk : e.1 = k
    · simp [hk]
    · rw [if_neg hk, ih]
      simp [Ne.symm hk]

/-- A new key goes to the end. -/
theorem put_of_not_mem {es : List (κ × ν)} {k : κ} (hk : k ∉ es.map Prod.fst) (f : Option ν → ν) :
    put k f es = es ++ [(k, f none)] := by
  induction es with
  | nil => rfl
  | cons e es ih =>
    rw [List.map_cons, List.mem_cons, not_or] at hk
    rw [put, if_neg (Ne.symm hk.1), ih hk.2, List.cons_append]

theorem size_alter (m : OrderedMap κ ν) (k : κ) (f : Option ν → ν) :
    (m.alter k f).size = if m.contains k then m.size else m.size + 1 := by
  have hkeys := congrArg List.length (keys_alter m k f)
  rw [keys, List.length_map] at hkeys
  rw [size, hkeys]
  split_ifs <;> simp [keys, size]

/-- A sum over the values changes by as much as the value that is changed. -/
theorem sum_values_alter {M : Type} [AddCommMonoid M] {m : OrderedMap κ ν} {k : κ} {f : Option ν → ν}
    {g : ν → M} {d : M} (h : g (f (m.get? k)) = (m.get? k).elim 0 g + d) :
    ((m.alter k f).values.map g).sum = (m.values.map g).sum + d := by
  obtain ⟨es⟩ := m
  simp only [get?, alter, values] at h ⊢
  induction es with
  | nil => simpa [put, find] using h
  | cons e es ih =>
    rw [put]
    rw [find] at h
    split_ifs at h ⊢ with hk
    · simp only [List.map_cons, List.sum_cons, h, Option.elim_some]
      exact add_right_comm _ _ _
    · simp only [List.map_cons, List.sum_cons, ih h, add_assoc]

/-! ### Numbers of occurrences -/

/-- Every key of a map of numbers stands there once, with a positive number. -/
structure IsCounted [OfNat ν 0] [LT ν] (m : OrderedMap κ ν) : Prop where
  nodup : m.keys.Nodup
  pos : ∀ k n, m.get? k = some n → 0 < n

theorem isCounted_empty [OfNat ν 0] [LT ν] : (empty : OrderedMap κ ν).IsCounted :=
  ⟨List.nodup_nil, fun k n h => by simp at h⟩

theorem IsCounted.alter [OfNat ν 0] [LT ν] {m : OrderedMap κ ν} (h : m.IsCounted) (k : κ)
    {f : Option ν → ν} (hf : 0 < f (m.get? k)) : (m.alter k f).IsCounted := by
  refine ⟨nodup_keys_alter h.nodup k f, fun x n hx => ?_⟩
  rw [get?_alter] at hx
  split_ifs at hx
  · exact Option.some.inj hx ▸ hf
  · exact h.pos x n hx

variable [OfNat ν 0] [Preorder ν] {m : OrderedMap κ ν} {k : κ} {n : ν}

/-- The entries are the keys with a number, and this number. -/
theorem IsCounted.mem_entries (h : m.IsCounted) :
    (k, n) ∈ m.entries ↔ 0 < n ∧ (m.get? k).getD 0 = n := by
  rw [OrderedMap.mem_entries h.nodup]
  constructor
  · intro hget
    rw [hget]
    exact ⟨h.pos k n hget, rfl⟩
  · rintro ⟨hpos, hcount⟩
    cases hget : m.get? k with
    | none =>
      rw [hget, Option.getD_none] at hcount
      exact absurd (hcount ▸ hpos) (lt_irrefl n)
    | some v => rw [hget, Option.getD_some] at hcount; rw [hcount]

theorem IsCounted.contains_iff (h : m.IsCounted) : m.contains k = true ↔ (m.get? k).getD 0 ≠ 0 := by
  rw [contains]
  cases hget : m.get? k with
  | none => simp
  | some v => simpa using (h.pos k v hget).ne'

theorem IsCounted.mem_keys (h : m.IsCounted) : k ∈ m.keys ↔ (m.get? k).getD 0 ≠ 0 := by
  rw [← contains_iff_mem_keys, h.contains_iff]

/-- A sum over the entries is a sum over any keys that include all with a number. -/
theorem IsCounted.sum_entries {M : Type} [AddCommMonoid M] (h : m.IsCounted) {g : κ × ν → M} {K : Finset κ}
    (hK : ∀ k, (m.get? k).getD 0 ≠ 0 → k ∈ K) (hg : ∀ k, g (k, 0) = 0) :
    (m.entries.map g).sum = ∑ k ∈ K, g (k, (m.get? k).getD 0) := by
  have hentries : m.entries.map g = m.keys.map fun k => g (k, (m.get? k).getD 0) := by
    rw [keys, List.map_map]
    refine List.map_congr_left fun e he => ?_
    simp [(h.mem_entries.mp he).2]
  rw [hentries, ← List.sum_toFinset _ h.nodup]
  refine Finset.sum_subset (fun k hk => hK k ?_) fun k _ hk => ?_
  · exact h.mem_keys.mp (List.mem_toFinset.mp hk)
  · rw [List.mem_toFinset, h.mem_keys, not_not] at hk
    rw [hk, hg]

end OrderedMap

namespace Tally

variable {κ : Type} [DecidableEq κ]

/-- Count an occurrence of a key, if there is one. -/
def bump? (t : Tally κ) : Option κ → Tally κ
  | some k => t.bump k
  | none => t

theorem count_bump? (t : Tally κ) (x : Option κ) (k : κ) :
    (t.bump? x).count k = t.count k + if x = some k then 1 else 0 := by
  cases x with
  | none => simp [bump?]
  | some y => by_cases hy : y = k <;> simp [bump?, hy]

theorem keys_bump (t : Tally κ) (k : κ) :
    (t.bump k).keys = if k ∈ t.keys then t.keys else t.keys ++ [k] := by
  simp only [bump, OrderedMap.keys_alter, OrderedMap.contains_iff_mem_keys]

/-- Every occurrence adds one to the sum of the counts. -/
theorem total_bump (t : Tally κ) (k : κ) : (t.bump k).total = t.total + 1 := by
  have hvalue : (t.get? k).getD 0 + 1 = (t.get? k).elim 0 id + 1 := by
    cases t.get? k <;> rfl
  have hsum := OrderedMap.sum_values_alter (f := fun c => c.getD 0 + 1) (g := id) hvalue
  rwa [List.map_id, List.map_id] at hsum

/-- The sum of the counts is one over any keys that include all with an occurrence. -/
theorem total_eq_sum_count {t : Tally κ} (h : OrderedMap.IsCounted t) {K : Finset κ}
    (hK : ∀ k, t.count k ≠ 0 → k ∈ K) : t.total = ∑ k ∈ K, t.count k :=
  h.sum_entries (g := Prod.snd) hK fun _ => rfl

end Tally

namespace OrderedMap

variable {κ : Type} [DecidableEq κ] {t : Tally κ}

theorem IsCounted.bump (h : t.IsCounted) (k : κ) : (t.bump k).IsCounted := h.alter k (Nat.succ_pos _)

theorem IsCounted.bump? (h : t.IsCounted) (x : Option κ) : (t.bump? x).IsCounted := by
  cases x with
  | none => exact h
  | some y => exact h.bump y

end OrderedMap

end Constituency
