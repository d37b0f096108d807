import Constituency.Proofs.Bracket.Written
import Constituency.Proofs.Tree.Countable

/-!
# Annotated trees in bracket notation

The label of an intermediate node lists the siblings in front of it, and words among them stand there as
they are: only words at leaves are escaped. A label is free of blanks and brackets if the labels of the tree
are, and if no bracket comes in front of a `^` in a leaf that has a sibling behind it (`HasPlainHistories`).
Then bracket notation can hold the annotated form of what it can hold (`isWritable_annotate`), and only then
(`hasPlainFronts_of_annotate`).
-/
namespace Constituency

namespace Label

/-- Whether a label has neither blanks nor brackets. -/
def IsPlain (l : String) : Prop := ∀ c ∈ l.toList, Bracket.isPlain c = true

instance (l : String) : Decidable (IsPlain l) :=
  inferInstanceAs (Decidable (∀ c ∈ l.toList, Bracket.isPlain c = true))

theorem mem_of_mem_fields {sep c : Char} {cs f : List Char} (hf : f ∈ Text.fields sep cs) (hc : c ∈ f) :
    c ∈ cs := by
  induction cs generalizing f with
  | nil =>
    rw [Text.fields, List.mem_singleton] at hf
    exact hf ▸ hc
  | cons d cs ih =>
    rw [Text.fields] at hf
    split at hf
    · rcases List.mem_cons.mp hf with rfl | hf
      · exact absurd hc (List.not_mem_nil)
      · exact List.mem_cons_of_mem _ (ih hf hc)
    · split at hf
      · obtain rfl := List.mem_singleton.mp hf
        rw [List.mem_singleton] at hc
        exact hc ▸ List.mem_cons_self ..
      · next g gs hfields =>
        rcases List.mem_cons.mp hf with rfl | hf
        · rcases List.mem_cons.mp hc with rfl | hc
          · exact List.mem_cons_self ..
          · exact List.mem_cons_of_mem _ (ih (hfields ▸ List.mem_cons_self ..) hc)
        · exact List.mem_cons_of_mem _ (ih (hfields ▸ List.mem_cons_of_mem _ hf) hc)

/-- A history is made of what was there, the sibling and separators. -/
theorem mem_extendChars {l s : List Char} {c : Char} (h : c ∈ extendChars l s) :
    c ∈ l ∨ c = '_' ∨ c ∈ s := by
  have hfield {f : List Char} (hf : f ∈ Text.fields '_' (Text.dropTrailing (· == '_') l)) (hc : c ∈ f) :
      c ∈ l := by
    obtain ⟨rest, hrest⟩ := dropTrailing_append (· == '_') l
    rw [hrest]
    exact List.mem_append_left _ (mem_of_mem_fields hf hc)
  unfold extendChars at h
  dsimp only at h
  split at h
  · exact (List.mem_append.mp h).imp_right Or.inr
  · exact (List.mem_append.mp h).imp_right Or.inr
  · simpa using h
  · next first rest _ _ hfields =>
    rw [hfields] at hfield
    rw [List.append_assoc, List.mem_append, List.cons_append, List.mem_cons, List.mem_append,
      List.mem_cons] at h
    rcases h with h | h | h | h | h
    · exact Or.inl (hfield (List.mem_cons_self ..) h)
    · exact Or.inr (Or.inl h)
    · rw [List.getLastD_eq_getLast?] at h
      cases hlast : rest.getLast? with
      | none => simp [hlast] at h
      | some f =>
        rw [hlast, Option.getD_some] at h
        exact Or.inl (hfield (List.mem_cons_of_mem _ (List.mem_of_getLast? hlast)) h)
    · exact Or.inr (Or.inl h)
    · exact Or.inr (Or.inr h)

theorem subset_extendChars (l s : List Char) : s ⊆ extendChars l s := by
  intro c hc
  unfold extendChars
  dsimp only
  split <;> simp [hc]

variable {l m : String}

theorem IsPlain.withParent (hl : IsPlain l) (hm : IsPlain m) : IsPlain (withParent l m) := by
  intro c hc
  rw [toList_withParent, List.mem_append, List.mem_cons] at hc
  rcases hc with hc | rfl | hc
  · exact hl c hc
  · decide
  · exact hm c hc

theorem IsPlain.base (hl : IsPlain l) : IsPlain (base l) := by
  intro c hc
  rw [Label.base, toList_onChars] at hc
  exact hl c ((List.takeWhile_sublist _).subset hc)

theorem IsPlain.parentMark (hl : IsPlain l) : IsPlain (parentMark l) := by
  intro c hc
  rw [Label.parentMark, toList_onChars] at hc
  exact hl c ((List.takeWhile_sublist _).subset (List.filter_sublist.subset hc))

theorem IsPlain.emptyHistory (hl : IsPlain l) : IsPlain (emptyHistory l) := by
  intro c hc
  rw [Label.emptyHistory, String.toList_append, String.toList_append, List.mem_append, List.mem_append] at hc
  rcases hc with (hc | hc) | hc
  · exact (by decide : ∀ c ∈ "@".toList, Bracket.isPlain c = true) c hc
  · exact hl c hc
  · exact (by decide : ∀ c ∈ "->_".toList, Bracket.isPlain c = true) c hc

theorem IsPlain.extendHistory (hl : IsPlain l) {sibling : String} (hs : IsPlain (Label.base sibling)) :
    IsPlain (extendHistory l sibling) := by
  intro c hc
  rw [Label.extendHistory, String.toList_ofList] at hc
  rcases mem_extendChars hc with hc | rfl | hc
  · exact hl c hc
  · decide
  · exact hs c (by rwa [Label.base, toList_onChars])

/-- The sibling that a history lists last stands in it as it is. -/
theorem IsPlain.base_of_extendHistory {sibling : String} (h : IsPlain (Label.extendHistory l sibling)) :
    IsPlain (Label.base sibling) := by
  intro c hc
  rw [Label.base, toList_onChars] at hc
  refine h c ?_
  rw [Label.extendHistory, String.toList_ofList]
  exact subset_extendChars _ _ hc

/-- A label that can stand anywhere in bracket notation. -/
def IsName (l : String) : Prop := l ≠ "" ∧ IsPlain l

instance (l : String) : Decidable (IsName l) := inferInstanceAs (Decidable (_ ∧ _))

theorem isName_withParent (hl : IsPlain l) (hm : IsPlain m) : IsName (Label.withParent l m) := by
  refine ⟨fun hempty => ?_, hl.withParent hm⟩
  have hchars := congrArg String.toList hempty
  simp at hchars

theorem IsHistoryOf.isName {h : String} (hh : IsHistoryOf l h) (hplain : IsPlain h) : IsName h := by
  refine ⟨?_, hplain⟩
  rintro rfl
  exact absurd hh.isIntermediate (by decide)

/-- Cutting leaves the first character, and adds none. -/
theorem IsName.cut (h : IsName l) : IsName (cut l) := by
  obtain ⟨hne, hplain⟩ := h
  have hchars : l.toList ≠ [] := fun hnil => hne (String.toList_inj.mp hnil)
  obtain ⟨c, cs, hcs⟩ := List.exists_cons_of_ne_nil hchars
  have hcut : ∃ ds, cutChars l.toList = c :: ds ∧ ds ⊆ cs := by
    rw [hcs, cutChars]
    split_ifs
    · exact ⟨cs, rfl, List.Subset.refl _⟩
    · exact ⟨_, rfl, (List.takeWhile_sublist _).subset⟩
    · exact ⟨_, rfl, (List.takeWhile_sublist _).subset⟩
  obtain ⟨ds, hds, hsub⟩ := hcut
  have htoList : (Label.cut l).toList = c :: ds := by
    rw [Label.cut, toList_onChars, hds]
  constructor
  · intro hempty
    simp [hempty] at htoList
  · intro d hd
    rw [htoList] at hd
    exact hplain d (hcs ▸ List.cons_subset_cons c hsub hd)

end Label

open Label

namespace Tree

/-- Whether everything that the histories in a tree list is free of blanks and brackets. -/
structure HasPlainHistories (t : Tree) : Prop where
  label : ∀ l cs, node l cs ∈ t.nodes → IsPlain l
  /-- Of a leaf with a sibling behind it, the history lists the part in front of `^`. -/
  front : ∀ l cs, node l cs ∈ t.nodes → ∀ w, leaf w ∈ cs.dropLast → IsPlain (base (w.getD ""))

theorem hasPlainHistories_node {l : String} {cs : List Tree} : (node l cs).HasPlainHistories ↔
    IsPlain l ∧ (∀ w, leaf w ∈ cs.dropLast → IsPlain (base (w.getD ""))) ∧
      ∀ c ∈ cs, c.HasPlainHistories := by
  constructor
  · intro h
    refine ⟨h.label l cs (by simp), h.front l cs (by simp), fun c hc => ⟨?_, ?_⟩⟩
    · exact fun m ds hm => h.label m ds (mem_nodes_of_mem_children hc hm)
    · exact fun m ds hm => h.front m ds (mem_nodes_of_mem_children hc hm)
  · rintro ⟨hlabel, hfront, hcs⟩
    constructor
    · intro m ds hm
      rcases mem_nodes_node.mp hm with hroot | ⟨c, hc, hm⟩
      · obtain ⟨rfl, rfl⟩ := Tree.node.inj hroot
        exact hlabel
      · exact (hcs c hc).label m ds hm
    · intro m ds hm
      rcases mem_nodes_node.mp hm with hroot | ⟨c, hc, hm⟩
      · obtain ⟨rfl, rfl⟩ := Tree.node.inj hroot
        exact hfront
      · exact (hcs c hc).front m ds hm

/-- Whether all labels of a tree can stand anywhere in bracket notation. -/
def HasNames (t : Tree) : Prop := ∀ u ∈ t.nodes, ∀ l, u.label? = some l → IsName l

@[simp] theorem hasNames_leaf (w : Word) : (leaf w).HasNames := by simp [HasNames]

@[simp] theorem hasNames_node (l : String) (cs : List Tree) :
    (node l cs).HasNames ↔ IsName l ∧ ∀ c ∈ cs, c.HasNames := by
  simp only [HasNames, nodes_node, List.forall_mem_cons, List.forall_mem_flatMap, label?,
    Option.some.injEq, forall_eq']

/-- Below a node after a history, the labels of annotated children and of the intermediate nodes. -/
theorem hasNames_branches {l h mark : String} (hh : IsHistoryOf l h) (hplain : IsPlain h)
    {ts : List Tree} (hfront : ∀ t ∈ ts.dropLast, IsPlain (base (siblingLabel mark t)))
    (hts : ∀ t ∈ ts, (annotateUnder mark t).HasNames) :
    ∀ b ∈ branches h (annotateAll mark ts), b.HasNames := by
  induction ts generalizing h with
  | nil => simp [annotateAll, branches]
  | cons t ts ih =>
    rw [List.forall_mem_cons] at hts
    rw [annotateAll]
    by_cases hmore : ts = []
    · subst hmore
      simpa [annotateAll, branches] using hts.1
    · rw [List.dropLast_cons_of_ne_nil hmore, List.forall_mem_cons] at hfront
      have hnext := hh.extend (siblingLabel mark t)
      have hnextPlain := hplain.extendHistory hfront.1
      rw [branches_cons h _ (annotateAll_ne_nil _ hmore), List.forall_mem_cons, List.forall_mem_singleton,
        hasNames_node]
      exact ⟨hts.1, hnext.isName hnextPlain, ih hnext hnextPlain hfront.2 hts.2⟩

theorem isPlain_base_siblingLabel {mark : String} (hmark : IsPlain mark) {l : String} {cs : List Tree}
    (h : (node l cs).HasPlainHistories) : ∀ t ∈ cs.dropLast, IsPlain (base (siblingLabel mark t)) := by
  obtain ⟨-, hfront, hcs⟩ := hasPlainHistories_node.mp h
  intro t ht
  cases t with
  | leaf w => exact hfront w ht
  | node m ds =>
    have hm := (hasPlainHistories_node.mp (hcs _ (List.mem_of_mem_dropLast ht))).1
    exact (hm.withParent hmark).base

theorem hasNames_annotateUnder {mark : String} (hmark : IsPlain mark) {t : Tree}
    (h : t.HasPlainHistories) : (annotateUnder mark t).HasNames := by
  induction t using Tree.induction generalizing mark with
  | leaf w => simp [annotateUnder]
  | node l cs ih =>
    obtain ⟨hlabel, -, hcs⟩ := hasPlainHistories_node.mp h
    have hplain := hlabel.withParent hmark
    rw [annotateUnder_node, hasNames_node]
    refine ⟨isName_withParent hlabel hmark, ?_⟩
    exact hasNames_branches .empty hplain.emptyHistory (isPlain_base_siblingLabel hplain.parentMark h)
      fun c hc => ih c hc hplain.parentMark (hcs c hc)

/-- Below the root, every label of an annotated tree can stand anywhere. -/
theorem hasNames_of_annotate_node {l : String} {cs : List Tree} (h : (node l cs).HasPlainHistories) :
    ∀ c ∈ (node l cs).annotate.children, c.HasNames := by
  obtain ⟨hlabel, -, hcs⟩ := hasPlainHistories_node.mp h
  rw [annotate_node, children]
  exact hasNames_branches .empty hlabel.emptyHistory (isPlain_base_siblingLabel hlabel.parentMark h)
    fun c hc => hasNames_annotateUnder hlabel.parentMark (hcs c hc)

theorem hasNames_annotate {t : Tree} (h : t.HasPlainHistories) (hroot : ∀ l, t.label? = some l → l ≠ "") :
    t.annotate.HasNames := by
  cases t with
  | leaf w => simp [annotate]
  | node l cs =>
    have hbelow := hasNames_of_annotate_node h
    rw [annotate_node] at hbelow ⊢
    exact (hasNames_node l _).mpr ⟨⟨hroot l rfl, (hasPlainHistories_node.mp h).1⟩, hbelow⟩

/-! ### Trees that can be counted -/

theorem HasNames.hasPlainHistories {t : Tree} (ht : t.HasNames) (hlast : t.HasLeavesLast) :
    t.HasPlainHistories := by
  induction t using Tree.induction with
  | leaf w => exact ⟨by simp, by simp⟩
  | node l cs ih =>
    obtain ⟨hl, hcs⟩ := (hasNames_node l cs).mp ht
    obtain ⟨-, hfront, hbelow⟩ := (hasLeavesLast_node l cs).mp hlast
    refine hasPlainHistories_node.mpr ⟨hl.2, fun w hw => ?_, fun c hc => ih c hc (hcs c hc) (hbelow c hc)⟩
    exact absurd (hfront _ hw) (by simp [isLeaf])

/-- The labels of an annotated tree that can be counted. -/
theorem hasNames_annotate_of_countable {t : Tree} (ht : t.HasNames)
    (hall : ∀ u ∈ t.annotate.nodes, u.production?.isSome) : t.annotate.HasNames := by
  refine hasNames_annotate (ht.hasPlainHistories (isCountable_annotate_iff.mp hall)) fun l hl => ?_
  obtain ⟨cs, rfl⟩ := exists_of_label? hl
  exact ((hasNames_node l cs).mp ht).1.1

/-! ### Without annotations -/

theorem HasNames.of_mem_spliced {p : String → Bool} {t : Tree} (h : t.HasNames) :
    ∀ c ∈ spliced p t, c.HasNames := by
  induction t using Tree.induction with
  | leaf w => simp [spliced]
  | node l cs ih =>
    obtain ⟨hl, hcs⟩ := (hasNames_node l cs).mp h
    have hbelow : ∀ c ∈ splicedAll p cs, c.HasNames := by
      rw [splicedAll_eq, List.forall_mem_flatMap]
      exact fun c hc => ih c hc (hcs c hc)
    rw [spliced]
    split
    · exact hbelow
    · exact List.forall_mem_singleton.mpr ((hasNames_node _ _).mpr ⟨hl, hbelow⟩)

theorem HasNames.splice {p : String → Bool} {t : Tree} (h : t.HasNames) : (t.splice p).HasNames := by
  cases t with
  | leaf w => exact h
  | node l cs =>
    obtain ⟨hl, hcs⟩ := (hasNames_node l cs).mp h
    rw [Tree.splice, hasNames_node, splicedAll_eq, List.forall_mem_flatMap]
    exact ⟨hl, fun c hc => (hcs c hc).of_mem_spliced⟩

theorem HasNames.mapLabels {f : String → String} (hf : ∀ l, IsName l → IsName (f l)) {t : Tree}
    (h : t.HasNames) : (t.mapLabels f).HasNames := by
  induction t using Tree.induction with
  | leaf w => simp
  | node l cs ih =>
    obtain ⟨hl, hcs⟩ := (hasNames_node l cs).mp h
    rw [mapLabels_node, hasNames_node, List.forall_mem_map]
    exact ⟨hf l hl, fun c hc => ih c hc (hcs c hc)⟩

theorem HasNames.unannotate {t : Tree} (h : t.HasNames) : t.unannotate.HasNames :=
  h.splice.mapLabels fun _ => IsName.cut

/-! ### Bracket notation -/

/-- Whether no bracket of a leaf with a sibling behind it stands in front of `^`. -/
def HasPlainFronts (t : Tree) : Prop :=
  ∀ l cs, node l cs ∈ t.nodes → ∀ w, ofWord w ∈ cs.dropLast →
    '(' ∉ (base w).toList ∧ ')' ∉ (base w).toList

theorem IsWritable.hasPlainHistories {t : Tree} (h : t.IsWritable) (hfronts : t.HasPlainFronts) :
    t.HasPlainHistories where
  label := h.label
  front l cs hl w hw := by
    have hmem : leaf w ∈ cs := List.mem_of_mem_dropLast hw
    obtain ⟨s, rfl, hs⟩ :=
      h.word w (leaves_subset_of_mem_nodes hl (mem_leaves_of_mem_children hmem (by simp)))
    obtain ⟨hopen, hclose⟩ := hfronts l cs hl s hw
    intro c hc
    have hblank := hs.no_blank c (by
      rw [Option.getD_some, base, toList_onChars] at hc
      exact (List.takeWhile_sublist _).subset hc)
    exact Bracket.isPlain_iff.mpr ⟨hblank, fun h => hopen (h ▸ hc), fun h => hclose (h ▸ hc)⟩

theorem hasPlainFronts_node {l : String} {cs : List Tree}
    (hfront : ∀ w, ofWord w ∈ cs.dropLast → IsPlain (base w)) (hcs : ∀ c ∈ cs, c.HasPlainFronts) :
    (node l cs).HasPlainFronts := by
  intro m ds hm w hw
  rcases mem_nodes_node.mp hm with hroot | ⟨c, hc, hm⟩
  · obtain ⟨rfl, rfl⟩ := Tree.node.inj hroot
    have hplain := hfront w hw
    exact ⟨fun hopen => (Bracket.isPlain_iff.mp (hplain _ hopen)).2.1 rfl,
      fun hclose => (Bracket.isPlain_iff.mp (hplain _ hclose)).2.2 rfl⟩
  · exact hcs c hc m ds hm w hw

/-- What the histories below a node list is found in their labels. -/
theorem isPlain_of_branches {k h mark : String} {ts : List Tree}
    (hall : ∀ l cs, node l cs ∈ (node k (branches h (annotateAll mark ts))).nodes → IsPlain l) :
    (∀ t ∈ ts.dropLast, IsPlain (base (siblingLabel mark t))) ∧
      ∀ t ∈ ts, ∀ l cs, node l cs ∈ (annotateUnder mark t).nodes → IsPlain l := by
  induction ts generalizing k h with
  | nil => simp
  | cons t ts ih =>
    rw [annotateAll] at hall
    by_cases hmore : ts = []
    · subst hmore
      rw [annotateAll, branches] at hall
      refine ⟨by simp, List.forall_mem_singleton.mpr fun l cs hl => hall l cs ?_⟩
      exact mem_nodes_of_mem_children (List.mem_singleton.mpr rfl) hl
    · rw [branches_cons h _ (annotateAll_ne_nil _ hmore)] at hall
      have hbelow : ∀ c ∈ [annotateUnder mark t, node (extendHistory h (siblingLabel mark t))
          (branches (extendHistory h (siblingLabel mark t)) (annotateAll mark ts))],
          ∀ l cs, node l cs ∈ c.nodes → IsPlain l :=
        fun c hc l cs hl => hall l cs (mem_nodes_of_mem_children hc hl)
      rw [List.forall_mem_cons, List.forall_mem_singleton] at hbelow
      obtain ⟨ht, hrest⟩ := hbelow
      have hhistory := hrest _ _ (mem_nodes_node.mpr (Or.inl rfl))
      obtain ⟨hfront, hts⟩ := ih hrest
      rw [List.dropLast_cons_of_ne_nil hmore]
      exact ⟨List.forall_mem_cons.mpr ⟨hhistory.base_of_extendHistory, hfront⟩,
        List.forall_mem_cons.mpr ⟨ht, hts⟩⟩

theorem siblingLabel_ofWord (mark w : String) : siblingLabel mark (ofWord w) = w := rfl

theorem hasPlainFronts_of_annotateUnder {mark : String} {t : Tree}
    (hall : ∀ l cs, node l cs ∈ (annotateUnder mark t).nodes → IsPlain l) : t.HasPlainFronts := by
  induction t using Tree.induction generalizing mark with
  | leaf w => simp [HasPlainFronts]
  | node l cs ih =>
    rw [annotateUnder_node] at hall
    obtain ⟨hfront, hbelow⟩ := isPlain_of_branches hall
    refine hasPlainFronts_node (fun w hw => ?_) fun c hc => ih c hc (hbelow c hc)
    have hplain := hfront _ hw
    rwa [siblingLabel_ofWord] at hplain

/-- If bracket notation can hold the annotated form of a tree, no bracket got into a history. -/
theorem hasPlainFronts_of_annotate {t : Tree} (h : t.annotate.IsWritable) : t.HasPlainFronts := by
  cases t with
  | leaf w => simp [HasPlainFronts]
  | node l cs =>
    have hall := h.label
    rw [annotate_node] at hall
    obtain ⟨hfront, hbelow⟩ := isPlain_of_branches hall
    refine hasPlainFronts_node (fun w hw => ?_) fun c hc => hasPlainFronts_of_annotateUnder (hbelow c hc)
    have hplain := hfront _ hw
    rwa [siblingLabel_ofWord] at hplain

/-- With labels that can stand anywhere, only the words are left. -/
theorem HasNames.isWritable {t : Tree} (h : t.HasNames)
    (hwords : ∀ w ∈ t.leaves, ∃ s, w = some s ∧ Bracket.IsWord s) : t.IsWritable where
  label l _ hl := (h _ hl l rfl).2
  first _ hl := absurd rfl (h _ hl "" rfl).1
  word := hwords

/-- Bracket notation can hold the annotated form of a tree that it can hold. -/
theorem isWritable_annotate {t : Tree} (h : t.IsWritable) (hh : t.HasPlainHistories) :
    t.annotate.IsWritable := by
  have hwords := h.word
  rw [← leaves_annotate] at hwords
  cases t with
  | leaf w => exact h
  | node l cs =>
    obtain ⟨hlabel, hfirst, -⟩ := isWritable_node.mp h
    have hbelow := hasNames_of_annotate_node hh
    rw [annotate_node] at hwords hbelow ⊢
    refine isWritable_node.mpr ⟨hlabel, fun hempty => ?_, fun c hc => (hbelow c hc).isWritable ?_⟩
    · have hhead := hfirst hempty
      rw [head?_branches, annotateAll_eq]
      simpa [List.head?_map, isLeaf_annotateUnder] using hhead
    · exact fun w hw => hwords w (mem_leaves_of_mem_children hc hw)

end Tree

end Constituency
