import Constituency.Label
import Mathlib.Data.List.Basic
import Mathlib.Data.List.TakeWhile

/-!
# Laws of labels

The stem of a label of an intermediate node is what stands in front of its siblings. It stays when a
sibling is added, whatever the sibling is called, so a history tells the label without `_` of the node
that it belongs to (`IsHistoryOf.unique`). Cutting undoes the annotation with a parent for exactly those
labels that hold no annotation already (`restores_iff`).
-/
namespace Constituency.Label

theorem takeWhile_append_of_mem {a : Char} {xs : List Char} (h : a ∈ xs) (ys : List Char) :
    (xs ++ ys).takeWhile (· != a) = xs.takeWhile (· != a) := by
  induction xs with
  | nil => simp at h
  | cons x xs ih =>
    by_cases hx : x = a
    · simp [hx]
    · have hxs : a ∈ xs := (List.mem_cons.mp h).resolve_left (Ne.symm hx)
      simp [hx, ih hxs]

/-- A text is cut at a mark that is not kept if everything in front of the mark is kept. -/
theorem takeWhile_append_cons_iff {p : Char → Bool} {a : Char} (ha : p a = false) (xs ys : List Char) :
    (xs ++ a :: ys).takeWhile p = xs ↔ ∀ x ∈ xs, p x = true := by
  constructor
  · intro h x hx
    rw [← h] at hx
    exact List.mem_takeWhile_imp hx
  · intro h
    rw [List.takeWhile_append_of_pos h]
    simp [ha]

theorem takeWhile_append_of_notMem {a : Char} {xs : List Char} (h : a ∉ xs) (ys : List Char) :
    (xs ++ a :: ys).takeWhile (· != a) = xs := by
  rw [takeWhile_append_cons_iff (by simp)]
  intro x hx
  exact bne_iff_ne.mpr (ne_of_mem_of_not_mem hx h)

theorem takeWhile_eq_self_of_notMem {a : Char} {xs : List Char} (h : a ∉ xs) :
    xs.takeWhile (· != a) = xs := by
  rw [List.takeWhile_eq_self_iff]
  intro x hx
  exact bne_iff_ne.mpr (ne_of_mem_of_not_mem hx h)

/-! ### Histories -/

/-- What stands in front of the siblings that an intermediate label lists. -/
def stem (l : String) : List Char := l.toList.takeWhile (· != '_')

/-- The labels of the intermediate nodes below a node of a given label. -/
inductive IsHistoryOf (l : String) : String → Prop
  | empty : IsHistoryOf l (emptyHistory l)
  | extend {h : String} (sibling : String) (hh : IsHistoryOf l h) :
      IsHistoryOf l (extendHistory h sibling)

/-- The first of the fields of a text ends in front of the first separator. -/
theorem fields_eq_cons (sep : Char) (cs : List Char) :
    ∃ rest, Text.fields sep cs = cs.takeWhile (· != sep) :: rest := by
  induction cs with
  | nil => exact ⟨[], rfl⟩
  | cons c cs ih =>
    obtain ⟨rest, hrest⟩ := ih
    by_cases hc : c = sep
    · exact ⟨Text.fields sep cs, by simp [Text.fields, hc]⟩
    · exact ⟨rest, by simp [Text.fields, hc, hrest]⟩

theorem fields_of_notMem {sep : Char} {cs : List Char} (h : sep ∉ cs) :
    Text.fields sep cs = [cs] := by
  induction cs with
  | nil => rfl
  | cons c cs ih =>
    rw [List.mem_cons, not_or] at h
    rw [Text.fields, if_neg (Ne.symm h.1), ih h.2]

theorem dropTrailing_append (p : Char → Bool) (cs : List Char) :
    ∃ rest, cs = Text.dropTrailing p cs ++ rest :=
  ⟨(cs.reverse.takeWhile p).reverse, by
    rw [Text.dropTrailing, ← List.reverse_append, List.takeWhile_append_dropWhile,
      List.reverse_reverse]⟩

/-- One more sibling changes nothing in front of the first `_`. -/
theorem takeWhile_extendChars {l : List Char} (h : '_' ∈ l) (s : List Char) :
    '_' ∈ extendChars l s ∧
      (extendChars l s).takeWhile (· != '_') = l.takeWhile (· != '_') := by
  unfold extendChars
  dsimp only
  split
  · exact ⟨List.mem_append_left _ h, takeWhile_append_of_mem h _⟩
  · exact ⟨List.mem_append_left _ h, takeWhile_append_of_mem h _⟩
  · exact ⟨List.mem_append_left _ h, takeWhile_append_of_mem h _⟩
  · rename_i first rest hrest _ hfields
    obtain ⟨tail, htail⟩ := dropTrailing_append (· == '_') l
    obtain ⟨rest', hfirst⟩ := fields_eq_cons '_' (Text.dropTrailing (· == '_') l)
    have hmem : '_' ∈ Text.dropTrailing (· == '_') l := by
      by_contra hnot
      rw [fields_of_notMem hnot, List.cons.injEq] at hfields
      exact hrest hfields.2.symm
    rw [hfirst, List.cons.injEq] at hfields
    have hno : '_' ∉ first := by
      rw [← hfields.1]
      intro hin
      simpa using List.mem_takeWhile_imp hin
    have hstem : first = l.takeWhile (· != '_') := by
      rw [← hfields.1]
      conv_rhs => rw [htail, takeWhile_append_of_mem hmem]
    refine ⟨by simp, ?_⟩
    rw [List.append_assoc, List.cons_append, takeWhile_append_of_notMem hno, hstem]

namespace IsHistoryOf

variable {l h : String}

theorem stem_eq (hh : IsHistoryOf l h) : '_' ∈ h.toList ∧ stem h = stem (emptyHistory l) := by
  induction hh with
  | empty => exact ⟨by simp [emptyHistory], rfl⟩
  | @extend h sibling hh ih =>
    have hextend := takeWhile_extendChars ih.1 (baseChars sibling.toList)
    rw [stem, extendHistory, String.toList_ofList]
    exact ⟨hextend.1, hextend.2.trans ih.2⟩

/-- The labels of intermediate nodes are known by their first character. -/
theorem isIntermediate (hh : IsHistoryOf l h) : isIntermediate h = true := by
  have hhead : (stem h).head? = some '@' := by
    rw [hh.stem_eq.2, stem, emptyHistory]
    simp
  unfold stem at hhead
  unfold Label.isIntermediate
  cases hchars : h.toList with
  | nil => simp [hchars] at hhead
  | cons c cs =>
    by_cases hc : c = '_'
    · simp [hchars, hc] at hhead
    · simpa [hchars, hc] using hhead

/-- A history belongs to one label without `_` at most. -/
theorem unique {m : String} (hl : '_' ∉ l.toList) (hm : '_' ∉ m.toList) (hh : IsHistoryOf l h)
    (hh' : IsHistoryOf m h) : l = m := by
  have hstem : ∀ k : String, '_' ∉ k.toList →
      stem (emptyHistory k) = '@' :: (k.toList ++ ['-', '>']) := by
    intro k hk
    have hno : '_' ∉ '@' :: (k.toList ++ ['-', '>']) := by simp [hk]
    simpa [stem, emptyHistory] using takeWhile_append_of_notMem hno []
  have hsame := hh.stem_eq.2.symm.trans hh'.stem_eq.2
  rw [hstem l hl, hstem m hm] at hsame
  simp only [List.cons.injEq, true_and, List.append_cancel_right_eq] at hsame
  exact String.toList_inj.mp hsame

end IsHistoryOf

/-! ### Annotations with a parent -/

/-- A label that holds no annotation, so that one can be cut off again. -/
def IsRestorable (l : String) : Prop :=
  l ≠ "" ∧ '^' ∉ l.toList ∧ l.toList.head? ≠ some '@' ∧
    (l.toList.head? = some '-' ∨ '-' ∉ l.toList)

@[simp] theorem toList_withParent (l m : String) :
    (withParent l m).toList = l.toList ++ '^' :: m.toList := by
  simp [withParent]

theorem baseChars_append_cons (l m : List Char) : baseChars (l ++ '^' :: m) = baseChars l := by
  by_cases hl : '^' ∈ l
  · exact takeWhile_append_of_mem hl _
  · rw [baseChars, takeWhile_append_of_notMem hl, baseChars, takeWhile_eq_self_of_notMem hl]

/-- An annotation with a parent changes neither the base label nor what it contributes to other labels. -/
theorem base_withParent (l m : String) : base (withParent l m) = base l := by
  rw [base, base, onChars, onChars, toList_withParent, baseChars_append_cons]

theorem parentMark_withParent (l m : String) : parentMark (withParent l m) = parentMark l := by
  rw [parentMark, parentMark, onChars, onChars, toList_withParent, baseChars_append_cons]

/-- Cutting undoes an annotation with a parent if it comes first. -/
theorem cut_withParent_iff (l m : String) :
    cut (withParent l m) = l ↔
      l ≠ "" ∧ '^' ∉ l.toList ∧ (l.toList.head? = some '-' ∨ '-' ∉ l.toList) := by
  rw [cut, ← String.toList_inj, toList_onChars, toList_withParent, ne_eq, ← String.toList_inj]
  cases l.toList with
  | nil => simp [cutChars]
  | cons c cs =>
    rw [List.cons_append, cutChars]
    by_cases hcaret : c = '^'
    · simp [hcaret]
    by_cases hdash : c = '-'
    · rw [if_neg hcaret, if_pos hdash, List.cons.injEq, takeWhile_append_cons_iff (by simp)]
      simp [hdash, List.forall_mem_ne']
    · rw [if_neg hcaret, if_neg hdash, List.cons.injEq, takeWhile_append_cons_iff (by simp)]
      simp [hdash, Ne.symm hdash, Ne.symm hcaret, forall_and, List.forall_mem_ne']

theorem isIntermediate_withParent {l : String} (h : l ≠ "") (m : String) :
    isIntermediate (withParent l m) = isIntermediate l := by
  have hl : l.toList ≠ [] := fun hnil => h (String.toList_inj.mp hnil)
  rw [isIntermediate, isIntermediate, toList_withParent, List.head?_append_of_ne_nil _ hl]

/-- Cutting leaves a label without annotations as it is. -/
theorem cut_eq_self {l : String} (h : IsRestorable l) : cut l = l := by
  obtain ⟨-, hcaret, -, hdash⟩ := h
  rw [cut, ← String.toList_inj, toList_onChars]
  cases hl : l.toList with
  | nil => rfl
  | cons c cs =>
    rw [hl, List.mem_cons, not_or] at hcaret
    rw [hl, List.head?_cons, Option.some.injEq, List.mem_cons, not_or] at hdash
    have hc : c ≠ '^' := Ne.symm hcaret.1
    by_cases hd : c = '-'
    · rw [cutChars, if_neg hc, if_pos hd, takeWhile_eq_self_of_notMem hcaret.2]
    · have hno : '-' ∉ cs := (hdash.resolve_left hd).2
      have hkeep : cs.takeWhile (fun x => x != '^' && x != '-') = cs := by
        rw [List.takeWhile_eq_self_iff]
        intro x hx
        simp [ne_of_mem_of_not_mem hx hcaret.2, ne_of_mem_of_not_mem hx hno]
      rw [cutChars, if_neg hc, if_neg hd, hkeep]

/-- The labels that an annotation with a parent and its removal bring back. -/
theorem restores_iff (l m : String) :
    isIntermediate (withParent l m) = false ∧ cut (withParent l m) = l ↔ IsRestorable l := by
  rw [cut_withParent_iff]
  constructor
  · rintro ⟨hinter, hne, hcaret, hdash⟩
    rw [isIntermediate_withParent hne] at hinter
    exact ⟨hne, hcaret, by simpa [isIntermediate] using hinter, hdash⟩
  · rintro ⟨hne, hcaret, hat, hdash⟩
    rw [isIntermediate_withParent hne]
    exact ⟨by simpa [isIntermediate] using hat, hne, hcaret, hdash⟩

end Constituency.Label
