import Constituency.Vocabulary
import Mathlib.Data.List.Induction
import Mathlib.Data.List.Infix
import Mathlib.Data.List.Nodup

/-!
# Laws of vocabularies

A vocabulary only grows at its end, so the number of a label stays the same (`Grows.find?_eq`), and no label
ever has two numbers (`nodup_indexOf`, `nodup_iff_exists_ofList`).
-/
namespace Constituency.Vocabulary

variable {v w : Vocabulary} {l : String} {i : Nat}

/-- A vocabulary that has come out of another one by adding labels. -/
def Grows (v w : Vocabulary) : Prop := v.labels.toList <+: w.labels.toList

/-- The labels that have a number. -/
def Knows (v : Vocabulary) (l : String) : Prop := l ∈ v.labels.toList

theorem Grows.refl (v : Vocabulary) : v.Grows v := List.prefix_refl _

theorem Grows.trans {u : Vocabulary} (h : u.Grows v) (h' : v.Grows w) : u.Grows w :=
  List.IsPrefix.trans h h'

theorem Grows.knows (h : v.Grows w) (hl : v.Knows l) : w.Knows l := List.IsPrefix.subset h hl

theorem getElem?_of_find? (h : v.find? l = some i) : v.labels[i]? = some l := by
  obtain ⟨hi, heq, -⟩ := List.findIdx?_eq_some_iff_getElem.mp h
  rw [beq_iff_eq] at heq
  rw [← heq, ← Array.getElem?_toList]
  exact List.getElem?_eq_getElem hi

theorem lt_size_of_find? (h : v.find? l = some i) : i < v.size :=
  (Array.getElem?_eq_some_iff.mp (getElem?_of_find? h)).1

theorem find?_eq_none_iff : v.find? l = none ↔ ¬ v.Knows l := by
  rw [find?, List.findIdx?_eq_none_iff, Knows]
  simp only [beq_eq_false_iff_ne]
  exact ⟨fun h hl => h l hl rfl, fun h x hx hxl => h (hxl ▸ hx)⟩

theorem exists_find? (h : v.Knows l) : ∃ i, v.find? l = some i :=
  Option.ne_none_iff_exists'.mp fun hnone => find?_eq_none_iff.mp hnone h

theorem knows_of_find? (h : v.find? l = some i) : v.Knows l := by
  by_contra hno
  rw [find?_eq_none_iff.mpr hno] at h
  exact absurd h (by simp)

/-- The number of a label stays the same. -/
theorem Grows.find?_eq (h : v.Grows w) (hl : v.Knows l) : w.find? l = v.find? l := by
  obtain ⟨i, hi⟩ := exists_find? hl
  obtain ⟨rest, hrest⟩ := h
  rw [find?, ← hrest, List.findIdx?_append]
  rw [find?] at hi ⊢
  rw [hi]
  rfl

theorem grows_indexOf (v : Vocabulary) (l : String) : v.Grows (v.indexOf l).2 := by
  unfold indexOf
  split
  · exact Grows.refl v
  · simp [Grows]

/-- A label has the number that it is given. -/
theorem find?_indexOf (v : Vocabulary) (l : String) :
    (v.indexOf l).2.find? l = some (v.indexOf l).1 := by
  unfold indexOf
  split
  · assumption
  · rename_i hnone
    rw [find?] at hnone
    simp [find?, List.findIdx?_append, hnone, List.findIdx?_cons, size]

theorem knows_indexOf (v : Vocabulary) (l : String) : (v.indexOf l).2.Knows l :=
  knows_of_find? (find?_indexOf v l)

theorem nodup_indexOf (h : v.labels.toList.Nodup) (l : String) :
    (v.indexOf l).2.labels.toList.Nodup := by
  unfold indexOf
  split
  · exact h
  · rename_i hnone
    have hnew : l ∉ v.labels.toList := find?_eq_none_iff.mp hnone
    simp only [Array.toList_push]
    exact List.nodup_append.mpr ⟨h, by simp, by
      intro a ha b hb
      rw [List.mem_singleton] at hb
      subst hb
      exact ne_of_mem_of_not_mem ha hnew⟩

theorem size_indexOf_le (v : Vocabulary) (l : String) : (v.indexOf l).2.size ≤ v.size + 1 := by
  unfold indexOf
  split
  · exact Nat.le_succ _
  · simp [size]

/-- When no label stands twice, the number of a label is its place. -/
theorem find?_of_getElem? (h : v.labels.toList.Nodup) (hi : v.labels[i]? = some l) :
    v.find? l = some i := by
  have hmem : v.Knows l := List.mem_iff_getElem?.mpr ⟨i, by rw [Array.getElem?_toList, hi]⟩
  obtain ⟨j, hj⟩ := exists_find? hmem
  rw [hj, Option.some.injEq]
  have hji := getElem?_of_find? hj
  rw [← Array.getElem?_toList] at hi hji
  exact (List.getElem?_inj (List.getElem?_eq_some_iff.mp hji).1 h).mp (hji.trans hi.symm)

/-! ### Vocabularies of lists -/

theorem ofList_concat (labels : List String) (l : String) : ofList (labels ++ [l]) = (ofList labels).add l := by
  rw [ofList, List.foldl_append]
  rfl

/-- A vocabulary of a list, and only that, has no label twice. -/
theorem nodup_iff_exists_ofList : v.labels.toList.Nodup ↔ ∃ labels, v = ofList labels := by
  constructor
  · intro h
    obtain ⟨⟨labels⟩⟩ := v
    refine ⟨labels, ?_⟩
    change labels.Nodup at h
    induction labels using List.reverseRecOn with
    | nil => rfl
    | append_singleton labels l ih =>
      obtain ⟨hold, -, hnew⟩ := List.nodup_append.mp h
      have hnone : find? ⟨labels.toArray⟩ l = none :=
        find?_eq_none_iff.mpr fun hl => hnew l hl l (List.mem_singleton.mpr rfl) rfl
      rw [ofList_concat, ← ih hold, add, indexOf, hnone]
      simp
  · rintro ⟨labels, rfl⟩
    induction labels using List.reverseRecOn with
    | nil => exact List.nodup_nil
    | append_singleton labels l ih =>
      rw [ofList_concat]
      exact nodup_indexOf ih l

end Constituency.Vocabulary
