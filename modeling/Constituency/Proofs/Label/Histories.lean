import Constituency.Proofs.Label
import Mathlib.Data.List.DropRight

/-!
# Histories in closed form

A history is built up sibling by sibling: the label is taken apart at each `_`, and put together again with
one sibling more. As long as no part has a `_` of its own and none that is taken apart is empty, the label
lists the base labels of the last two siblings (`foldl_extendHistory`). Such a label tells the label that it
stands under and the siblings that it lists (`historyLabel_inj`). A label without any `_` is refused, which
never happens to one that was built up (`foldlM_markovize`).
-/
namespace Constituency.Label

/-! ### Fields -/

theorem fields_append_cons {sep : Char} {xs : List Char} (h : sep ∉ xs) (ys : List Char) :
    Text.fields sep (xs ++ sep :: ys) = xs :: Text.fields sep ys := by
  induction xs with
  | nil => rw [List.nil_append, Text.fields, if_pos rfl]
  | cons x xs ih =>
    rw [List.mem_cons, not_or] at h
    rw [List.cons_append, Text.fields, if_neg (Ne.symm h.1), ih h.2]

/-- Fields without separators are found again in front of and between separators. -/
theorem fields_intercalate {sep : Char} {parts : List (List Char)} (hne : parts ≠ [])
    (h : ∀ p ∈ parts, sep ∉ p) : Text.fields sep ([sep].intercalate parts) = parts := by
  induction parts with
  | nil => exact absurd rfl hne
  | cons p parts ih =>
    rw [List.forall_mem_cons] at h
    by_cases hmore : parts = []
    · subst hmore
      rw [List.intercalate_singleton, fields_of_notMem h.1]
    · rw [List.intercalate_cons_of_ne_nil hmore, List.append_assoc, List.singleton_append,
        fields_append_cons h.1, ih hmore h.2]

theorem dropTrailing_concat (p : Char → Bool) (xs : List Char) (c : Char) :
    Text.dropTrailing p (xs ++ [c]) = if p c then Text.dropTrailing p xs else xs ++ [c] := by
  rw [Text.dropTrailing, List.reverse_append, List.reverse_singleton, List.singleton_append, List.dropWhile_cons]
  split_ifs
  · rfl
  · rw [List.reverse_cons, List.reverse_reverse]

/-- Nothing is dropped behind a text that does not end with a separator. -/
theorem dropTrailing_append_of_notMem {sep : Char} {ys : List Char} (hne : ys ≠ []) (h : sep ∉ ys)
    (xs : List Char) : Text.dropTrailing (· == sep) (xs ++ ys) = xs ++ ys := by
  obtain ⟨zs, c, rfl⟩ := (List.eq_nil_or_concat ys).resolve_left hne
  have hc : c ≠ sep := fun hsame => h (by simp [hsame])
  rw [List.concat_eq_append, ← List.append_assoc, dropTrailing_concat, if_neg (by simpa using hc)]

/-! ### Labels without a history -/

theorem hasHistory_emptyHistory (l : String) : hasHistory (emptyHistory l) = true := by
  simp [hasHistory, emptyHistory]

/-- A history with one more sibling is a history again. -/
theorem hasHistory_extendHistory {l : String} (h : hasHistory l = true) (sibling : String) :
    hasHistory (extendHistory l sibling) = true := by
  rw [hasHistory, List.contains_iff_mem] at h ⊢
  rw [extendHistory, String.toList_ofList, extendChars]
  split <;> simp [h]

/-- Binarization starts from an empty history, so none of its steps is refused. -/
theorem foldlM_markovize (l : String) (siblings : List String) :
    siblings.foldlM markovize (emptyHistory l) = .ok (siblings.foldl extendHistory (emptyHistory l)) := by
  have hrun (l : String) (h : hasHistory l = true) :
      siblings.foldlM markovize l = .ok (siblings.foldl extendHistory l) := by
    induction siblings generalizing l with
    | nil => rfl
    | cons s siblings ih =>
      rw [List.foldlM_cons, markovize, if_pos h]
      exact ih (extendHistory l s) (hasHistory_extendHistory h s)
  exact hrun _ (hasHistory_emptyHistory l)

/-! ### Labels of intermediate nodes -/

/-- The characters of a history: a stem, and parts with separators in front of them. -/
def historyChars (front : List Char) (parts : List (List Char)) : List Char :=
  front ++ '_' :: ['_'].intercalate parts

theorem exists_intercalate_eq_append (sep : Char) {parts : List (List Char)} (hne : parts ≠ []) :
    ∃ xs, [sep].intercalate parts = xs ++ parts.getLast hne := by
  induction parts with
  | nil => exact absurd rfl hne
  | cons p parts ih =>
    by_cases hmore : parts = []
    · subst hmore
      exact ⟨[], by rw [List.intercalate_singleton, List.getLast_singleton, List.nil_append]⟩
    · obtain ⟨xs, hxs⟩ := ih hmore
      refine ⟨p ++ [sep] ++ xs, ?_⟩
      rw [List.intercalate_cons_of_ne_nil hmore, hxs, List.getLast_cons hmore, List.append_assoc _ xs]

/-- A history is taken apart into its stem and the parts that it lists. -/
theorem fields_dropTrailing {front : List Char} {parts : List (List Char)} (hne : front ≠ [])
    (hfront : '_' ∉ front) (hparts : ∀ p ∈ parts, p ≠ [] ∧ '_' ∉ p) :
    Text.fields '_' (Text.dropTrailing (· == '_') (historyChars front parts)) = front :: parts := by
  by_cases hmore : parts = []
  · subst hmore
    have hdrop := dropTrailing_append_of_notMem hne hfront []
    rw [List.nil_append] at hdrop
    change Text.fields '_' (Text.dropTrailing (· == '_') (front ++ ['_'])) = [front]
    rw [dropTrailing_concat, if_pos (by decide), hdrop, fields_of_notMem hfront]
  · obtain ⟨xs, hxs⟩ := exists_intercalate_eq_append '_' hmore
    obtain ⟨hlast, hno⟩ := hparts _ (List.getLast_mem hmore)
    have hdrop : Text.dropTrailing (· == '_') (historyChars front parts) = historyChars front parts := by
      rw [historyChars, hxs, ← List.cons_append, ← List.append_assoc, dropTrailing_append_of_notMem hlast hno]
    rw [hdrop, historyChars, fields_append_cons hfront, fields_intercalate hmore fun p hp => (hparts p hp).2]

/-- A history that lists at most two parts keeps the last one and gets a new one. -/
theorem extendChars_historyChars {front : List Char} {parts : List (List Char)} (hne : front ≠ [])
    (hfront : '_' ∉ front) (hparts : ∀ p ∈ parts, p ≠ [] ∧ '_' ∉ p) (hlength : parts.length ≤ 2)
    (sibling : List Char) :
    extendChars (historyChars front parts) sibling = historyChars front (parts.rtake 1 ++ [sibling]) := by
  have hfields := fields_dropTrailing hne hfront hparts
  unfold extendChars
  simp only [hfields]
  match parts with
  | [] => simp [historyChars]
  | [a] => simp [historyChars, List.rtake]
  | [a, b] => simp [historyChars, List.rtake]
  | _ :: _ :: _ :: _ => exact absurd hlength (by simp)

/-- The label of an intermediate node below a node of a given label, with the siblings that it lists. -/
def historyLabel (l : String) (siblings : List String) : String :=
  "@" ++ l ++ "->_" ++ "_".intercalate siblings

theorem toList_historyLabel (l : String) (siblings : List String) :
    (historyLabel l siblings).toList =
      historyChars ('@' :: (l.toList ++ ['-', '>'])) (siblings.map String.toList) := by
  simp [historyLabel, historyChars, String.toList_intercalate]

theorem emptyHistory_eq (l : String) : emptyHistory l = historyLabel l [] := by
  simp [emptyHistory, historyLabel, String.intercalate_nil]

theorem not_mem_front {l : String} (hl : '_' ∉ l.toList) : '_' ∉ '@' :: (l.toList ++ ['-', '>']) := by
  simp [hl]

/-- One more sibling, when no part has a separator and no listed one is empty. -/
theorem extendHistory_historyLabel {l : String} {siblings : List String} (hl : '_' ∉ l.toList)
    (hsiblings : ∀ s ∈ siblings, s ≠ "" ∧ '_' ∉ s.toList) (hlength : siblings.length ≤ 2) (sibling : String) :
    extendHistory (historyLabel l siblings) sibling = historyLabel l (siblings.rtake 1 ++ [base sibling]) := by
  have hparts : ∀ p ∈ siblings.map String.toList, p ≠ [] ∧ '_' ∉ p := by
    rw [List.forall_mem_map]
    intro s hs
    exact ⟨fun hnil => (hsiblings s hs).1 (String.toList_inj.mp hnil), (hsiblings s hs).2⟩
  rw [← String.toList_inj, extendHistory, String.toList_ofList, toList_historyLabel,
    extendChars_historyChars (by simp) (not_mem_front hl) hparts (by simpa using hlength), toList_historyLabel]
  simp [List.rtake, base]

theorem mem_of_mem_rtake {α : Type} {n : Nat} {xs : List α} {x : α} (h : x ∈ xs.rtake n) : x ∈ xs :=
  List.mem_of_mem_drop h

theorem length_rtake_le {α : Type} (n : Nat) (xs : List α) : (xs.rtake n).length ≤ n := by
  rw [List.rtake, List.length_drop]
  omega

theorem rtake_rtake {α : Type} (n : Nat) (xs : List α) : (xs.rtake (n + 1)).rtake n = xs.rtake n := by
  simp only [List.rtake_eq_reverse_take_reverse, List.reverse_reverse, List.take_take]
  congr 2
  omega

/-- The history after some siblings lists the base labels of the last two. Only siblings that another one
follows are ever taken apart. -/
theorem foldl_extendHistory {l : String} {siblings : List String} (hl : '_' ∉ l.toList)
    (hsiblings : ∀ s ∈ siblings, base s ≠ "" ∧ '_' ∉ (base s).toList) :
    siblings.foldl extendHistory (emptyHistory l) = historyLabel l ((siblings.map base).rtake 2) := by
  induction siblings using List.reverseRecOn with
  | nil => rw [List.foldl_nil, emptyHistory_eq, List.map_nil, List.rtake_nil]
  | append_singleton siblings s ih =>
    rw [List.forall_mem_append] at hsiblings
    have hlisted : ∀ r ∈ (siblings.map base).rtake 2, r ≠ "" ∧ '_' ∉ r.toList := by
      intro r hr
      obtain ⟨s, hs, rfl⟩ := List.mem_map.mp (mem_of_mem_rtake hr)
      exact hsiblings.1 s hs
    rw [List.foldl_append, List.foldl_cons, List.foldl_nil, ih hsiblings.1,
      extendHistory_historyLabel hl hlisted (length_rtake_le 2 _), rtake_rtake, List.map_append,
      List.map_singleton, List.rtake_concat_succ]

/-- The fields of a history are what it stands under and the siblings that it lists. -/
theorem fields_historyLabel {l : String} {siblings : List String} (hl : '_' ∉ l.toList)
    (hne : siblings ≠ []) (hsiblings : ∀ s ∈ siblings, '_' ∉ s.toList) :
    Text.fields '_' (historyLabel l siblings).toList =
      ('@' :: (l.toList ++ ['-', '>'])) :: siblings.map String.toList := by
  rw [toList_historyLabel, historyChars, fields_append_cons (not_mem_front hl),
    fields_intercalate (by simpa using hne) (by simpa using hsiblings)]

/-- A history tells the label that it stands under, and the siblings that it lists. -/
theorem historyLabel_inj {l m : String} {siblings others : List String} (hl : '_' ∉ l.toList)
    (hm : '_' ∉ m.toList) (hne : siblings ≠ []) (hne' : others ≠ [])
    (hsiblings : ∀ s ∈ siblings, '_' ∉ s.toList) (hothers : ∀ s ∈ others, '_' ∉ s.toList) :
    historyLabel l siblings = historyLabel m others ↔ l = m ∧ siblings = others := by
  constructor
  · intro hsame
    have hfields := fields_historyLabel hl hne hsiblings
    rw [hsame, fields_historyLabel hm hne' hothers] at hfields
    simp only [List.cons.injEq, true_and, List.append_cancel_right_eq] at hfields
    exact ⟨(String.toList_inj.mp hfields.1).symm,
      (List.map_injective_iff.mpr (fun _ _ => String.toList_inj.mp) hfields.2).symm⟩
  · rintro ⟨rfl, rfl⟩
    rfl

end Constituency.Label
