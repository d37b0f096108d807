import Constituency.Proofs.Tree.Histories
import Constituency.Proofs.Bracket.Printed
import Constituency.Proofs.Treebank

/-!
# Reading what was read

The tree of a block is dressed as the options want it, written and read again. What is read then is the tree
dressed once more (`readBlock_of_writeAs`): a word that was read has its only written form, and stripped labels
are labels. So the tree comes back if and only if dressing it again changes nothing, and this depends on the
required root alone (`dress_dress_iff`): a root that the stripping of function tags changes gets a parent at
every reading, which makes the tree larger.
-/
namespace Constituency

namespace Label

/-! ### Function tags -/

theorem cutAt_eq_self_iff {mark c : Char} {cs : List Char} :
    cutAt mark (c :: cs) = c :: cs ↔ c = mark ∨ mark ∉ cs := by
  rw [cutAt]
  split_ifs with hc
  · simp [hc]
  · rw [List.cons.injEq, List.takeWhile_eq_self_iff]
    simp [hc, List.forall_mem_ne']

/-- Cutting keeps the first character, and what it keeps of the others has no mark, unless the text begins
with the mark. -/
theorem exists_cutAt (mark c : Char) (cs : List Char) :
    ∃ ds, cutAt mark (c :: cs) = c :: ds ∧ ds ⊆ cs ∧ (c = mark ∨ mark ∉ ds) := by
  rw [cutAt]
  split_ifs with hc
  · exact ⟨cs, rfl, List.Subset.refl cs, Or.inl hc⟩
  · refine ⟨_, rfl, (List.takeWhile_sublist _).subset, Or.inr fun hmark => ?_⟩
    simpa using List.mem_takeWhile_imp hmark

/-- What is left of a label without function tags. -/
theorem exists_withoutFunction {l : String} {c : Char} {cs : List Char} (hl : l.toList = c :: cs) :
    ∃ ds, (withoutFunction l).toList = c :: ds ∧ ds ⊆ cs ∧ (c = '-' ∨ '-' ∉ ds) ∧ (c = '=' ∨ '=' ∉ ds) := by
  obtain ⟨ds, hds, hsub, hdash⟩ := exists_cutAt '-' c cs
  obtain ⟨es, hes, hsub', hequals⟩ := exists_cutAt '=' c ds
  refine ⟨es, ?_, List.Subset.trans hsub' hsub, hdash.imp_right (mt (@hsub' _)), hequals⟩
  rw [withoutFunction, toList_onChars, hl, hds, hes]

theorem withoutFunction_empty : withoutFunction "" = "" := by decide

theorem withoutFunction_withoutFunction (l : String) :
    withoutFunction (withoutFunction l) = withoutFunction l := by
  cases hl : l.toList with
  | nil =>
    obtain rfl : l = "" := String.toList_inj.mp hl
    rw [withoutFunction_empty, withoutFunction_empty]
  | cons c cs =>
    obtain ⟨ds, hds, -, hdash, hequals⟩ := exists_withoutFunction hl
    rw [← String.toList_inj, withoutFunction, toList_onChars, hds, cutAt_eq_self_iff.mpr hdash,
      cutAt_eq_self_iff.mpr hequals]

theorem withoutFunction_eq_empty_iff {l : String} : withoutFunction l = "" ↔ l = "" := by
  constructor
  · intro hempty
    cases hl : l.toList with
    | nil => exact String.toList_inj.mp hl
    | cons c cs =>
      obtain ⟨ds, hds, -⟩ := exists_withoutFunction hl
      exact absurd hds (by simp [hempty])
  · rintro rfl
    exact withoutFunction_empty

theorem IsPlain.withoutFunction {l : String} (h : IsPlain l) : IsPlain (withoutFunction l) := by
  cases hl : l.toList with
  | nil =>
    obtain rfl : l = "" := String.toList_inj.mp hl
    exact h
  | cons c cs =>
    obtain ⟨ds, hds, hsub, -⟩ := exists_withoutFunction hl
    intro d hd
    rw [hds] at hd
    exact h d (hl ▸ List.cons_subset_cons c hsub hd)

end Label

namespace Tree

variable {f : String → String} {t : Tree}

theorem isLeaf_mapLabels (f : String → String) (t : Tree) : (t.mapLabels f).isLeaf = t.isLeaf := by
  cases t <;> rfl

theorem mapLabels_mapLabels (f g : String → String) (t : Tree) :
    (t.mapLabels f).mapLabels g = t.mapLabels (g ∘ f) := by
  induction t using Tree.induction with
  | leaf w => simp
  | node l cs ih => simpa using ih

/-- Bracket notation can hold a tree whose labels are changed to labels that it can hold, if none of them
becomes empty. -/
theorem IsWritable.mapLabels (hplain : ∀ l, Label.IsPlain l → Label.IsPlain (f l))
    (hempty : ∀ l, f l = "" → l = "") (h : t.IsWritable) : (t.mapLabels f).IsWritable := by
  induction t using Tree.induction with
  | leaf w => exact h
  | node l cs ih =>
    obtain ⟨hlabel, hfirst, hcs⟩ := isWritable_node.mp h
    rw [mapLabels_node, isWritable_node]
    refine ⟨hplain l hlabel, fun hl => ?_, ?_⟩
    · simpa [List.head?_map, isLeaf_mapLabels] using hfirst (hempty l hl)
    · rw [List.forall_mem_map]
      exact fun c hc => ih c hc (hcs c hc)

end Tree

namespace Treebank

variable {o : TreebankOptions} {t : Tree} {b : List Char}

/-! ### Dressed trees -/

/-- A tree without function tags, if they are to be stripped. -/
def stripped (strip : Bool) (t : Tree) : Tree :=
  if strip then t.mapLabels Label.withoutFunction else t

theorem dress_eq (o : TreebankOptions) (t : Tree) :
    dress o t = ensureRoot o.root (stripped o.stripFunctions t) := rfl

/-- A label without function tags, if they are to be stripped. -/
def strippedLabel (strip : Bool) (l : String) : String :=
  if strip then Label.withoutFunction l else l

theorem stripped_node (strip : Bool) (l : String) (cs : List Tree) :
    stripped strip (.node l cs) = .node (strippedLabel strip l) (cs.map (stripped strip)) := by
  cases strip with
  | false => exact congrArg (Tree.node l) (List.map_id' cs).symm
  | true => exact Tree.mapLabels_node _ l cs

theorem stripped_stripped (strip : Bool) (t : Tree) :
    stripped strip (stripped strip t) = stripped strip t := by
  cases strip with
  | false => rfl
  | true =>
    simp only [stripped, if_true, Tree.mapLabels_mapLabels]
    congr 1
    exact funext Label.withoutFunction_withoutFunction

/-- A required root is put in the place of an empty one, or above any other one. -/
theorem ensureRoot_node {r : String} (hr : r ≠ "") (l : String) (cs : List Tree) :
    ensureRoot (some r) (.node l cs) =
      if l = "" ∨ l = r then .node r cs else .node r [.node l cs] := by
  rw [ensureRoot, if_neg hr]
  by_cases hl : l = ""
  · rw [if_pos hl, if_pos (Or.inl hl)]
  by_cases hlr : l = r
  · rw [if_neg hl, if_pos hlr, if_pos (Or.inr hlr), hlr]
  · rw [if_neg hl, if_neg hlr, if_neg (not_or.mpr ⟨hl, hlr⟩)]

/-- Below a required root, a dressed tree is stripped. -/
theorem exists_dress_node {r : String} (hr : r ≠ "") (strip : Bool) (l : String) (cs : List Tree) :
    ∃ ds, dress ⟨some r, strip⟩ (.node l cs) = .node r ds ∧ ds.map (stripped strip) = ds := by
  have hcs : (cs.map (stripped strip)).map (stripped strip) = cs.map (stripped strip) := by
    rw [List.map_map]
    exact List.map_congr_left fun c _ => stripped_stripped strip c
  rw [dress_eq, stripped_node]
  change ∃ ds, ensureRoot (some r) (.node (strippedLabel strip l) (cs.map (stripped strip))) = _ ∧ _
  rw [ensureRoot_node hr]
  split_ifs
  · exact ⟨_, rfl, hcs⟩
  · refine ⟨_, rfl, ?_⟩
    rw [List.map_singleton, ← stripped_node, stripped_stripped]

/-- Whether the treatment of function tags leaves the required root as it is. -/
def KeepsRoot (o : TreebankOptions) : Prop :=
  o.stripFunctions = false ∨ o.root = none ∨ ∃ r, o.root = some r ∧ Label.withoutFunction r = r

/-- Dressing a node again changes nothing if and only if the required root is left as it is. -/
theorem dress_dress_iff (hroot : ∀ r ∈ o.root, r ≠ "") (ht : t.isLeaf = false) :
    dress o (dress o t) = dress o t ↔ KeepsRoot o := by
  obtain ⟨root, strip⟩ := o
  cases t with
  | leaf w => exact absurd ht (by simp [Tree.isLeaf])
  | node l cs =>
    cases root with
    | none => simp [KeepsRoot, dress_eq, ensureRoot, stripped_stripped]
    | some r =>
      have hr : r ≠ "" := hroot r rfl
      obtain ⟨ds, hdress, hds⟩ := exists_dress_node hr strip l cs
      rw [hdress, dress_eq, stripped_node, hds, ensureRoot_node hr]
      cases strip with
      | false => simp [KeepsRoot, strippedLabel]
      | true =>
        have hempty : Label.withoutFunction r ≠ "" := fun h => hr (Label.withoutFunction_eq_empty_iff.mp h)
        change (if Label.withoutFunction r = "" ∨ Label.withoutFunction r = r then Tree.node r ds
          else .node r [.node (Label.withoutFunction r) ds]) = .node r ds ↔ _
        have hlarger : Tree.node r [.node (Label.withoutFunction r) ds] ≠ .node r ds := by
          intro hsame
          have hsize := congrArg Tree.size hsame
          simp only [Tree.size, Tree.sizeAll] at hsize
          omega
        by_cases hkeep : Label.withoutFunction r = r
        · simp [KeepsRoot, hkeep]
        · simp [KeepsRoot, hkeep, hempty, hlarger]

/-! ### Blocks -/

/-- A tree with a required root is the tree itself, or has the root in place of an empty one or above it. -/
theorem ensureRoot_cases (root : Option String) (t : Tree) :
    ensureRoot root t = t ∨ ∃ r ∈ root, r ≠ "" ∧
      ((∃ cs, t = .node "" cs ∧ ensureRoot root t = .node r cs) ∨
        t.isLeaf = false ∧ ensureRoot root t = .node r [t]) := by
  cases root with
  | none => exact Or.inl rfl
  | some r =>
    cases t with
    | leaf w => exact Or.inl rfl
    | node l cs =>
      by_cases hr : r = ""
      · exact Or.inl (by rw [ensureRoot, if_pos hr])
      rw [ensureRoot_node hr]
      split_ifs with hl
      · rcases hl with rfl | rfl
        · exact Or.inr ⟨r, rfl, hr, Or.inl ⟨cs, rfl, rfl⟩⟩
        · exact Or.inl rfl
      · exact Or.inr ⟨r, rfl, hr, Or.inr ⟨rfl, rfl⟩⟩

theorem leaves_dress (o : TreebankOptions) (t : Tree) : (dress o t).leaves = t.leaves := by
  have hstripped : (stripped o.stripFunctions t).leaves = t.leaves := by
    cases o.stripFunctions with
    | false => rfl
    | true => exact Tree.leaves_mapLabels _ t
  rw [dress_eq, ← hstripped]
  rcases ensureRoot_cases o.root (stripped o.stripFunctions t) with
    hsame | ⟨r, -, -, ⟨cs, ht, hroot⟩ | ⟨-, hroot⟩⟩
  · rw [hsame]
  · rw [hroot, ht, Tree.leaves_node, Tree.leaves_node]
  · rw [hroot, Tree.leaves_node, List.flatMap_singleton]

theorem isLeaf_dress (o : TreebankOptions) (t : Tree) : (dress o t).isLeaf = t.isLeaf := by
  have hstripped : (stripped o.stripFunctions t).isLeaf = t.isLeaf := by
    cases o.stripFunctions with
    | false => rfl
    | true => exact Tree.isLeaf_mapLabels _ t
  rw [dress_eq, ← hstripped]
  rcases ensureRoot_cases o.root (stripped o.stripFunctions t) with
    hsame | ⟨r, -, -, ⟨cs, ht, hroot⟩ | ⟨ht, hroot⟩⟩
  · rw [hsame]
  · rw [hroot, ht]
    rfl
  · rw [hroot, ht]
    rfl

/-- Bracket notation can hold a dressed tree if it can hold the tree and the required root. -/
theorem isWritable_dress (hroot : ∀ r ∈ o.root, Label.IsPlain r) (h : t.IsWritable) :
    (dress o t).IsWritable := by
  have hstripped : (stripped o.stripFunctions t).IsWritable := by
    cases o.stripFunctions with
    | false => exact h
    | true =>
      exact h.mapLabels (fun _ => Label.IsPlain.withoutFunction) fun _ => Label.withoutFunction_eq_empty_iff.mp
  rw [dress_eq]
  rcases ensureRoot_cases o.root (stripped o.stripFunctions t) with
    hsame | ⟨r, hr, hne, ⟨cs, ht, hcs⟩ | ⟨-, hcs⟩⟩
  · rwa [hsame]
  · rw [ht] at hstripped
    rw [hcs, Tree.isWritable_node]
    exact ⟨hroot r hr, fun hempty => absurd hempty hne, (Tree.isWritable_node.mp hstripped).2.2⟩
  · rw [hcs, Tree.isWritable_node]
    exact ⟨hroot r hr, fun hempty => absurd hempty hne, List.forall_mem_singleton.mpr hstripped⟩

theorem readBlock_eq_ok_iff : readBlock o b = .ok t ↔
    ∃ u, Bracket.read b = .ok u ∧ dress o (u.mapWords Bracket.unescapeWord) = t := by
  rw [readBlock]
  cases Bracket.read b with
  | error e => simp [Except.map]
  | ok u => simp [Except.map]

/-- The tree of a block can be written, with words that come back. -/
theorem isWritable_of_readBlock (hroot : ∀ r ∈ o.root, Label.IsPlain r) (h : readBlock o b = .ok t) :
    t.isLeaf = false ∧ t.IsWritable ∧ t.HasRecoverableWords ∧ ∃ u, u.isLeaf = false ∧ dress o u = t := by
  obtain ⟨u, hu, rfl⟩ := readBlock_eq_ok_iff.mp h
  obtain ⟨hplain, hnode⟩ := Bracket.isPlainTree_of_read hu
  obtain ⟨hwritable, hwords⟩ := hplain.mapWords_unescapeWord
  have hleaf : (u.mapWords Bracket.unescapeWord).isLeaf = false := by rw [Tree.isLeaf_mapWords, hnode]
  refine ⟨by rw [isLeaf_dress, hleaf], isWritable_dress hroot hwritable, ?_, _, hleaf, rfl⟩
  rwa [Tree.HasRecoverableWords, leaves_dress]

/-- What is read of a tree that was written is the tree dressed. -/
theorem readBlock_of_writeAs {text : String} (htext : t.writeAs "bracket" = .ok text)
    (hnode : t.isLeaf = false) (ht : t.IsWritable) (hwords : t.HasRecoverableWords) :
    readBlock o text.toList = .ok (dress o t) := by
  obtain ⟨text', htext', hfront⟩ := Bracket.exists_writeAs hnode (Or.inl rfl)
  obtain rfl := Except.ok.inj (htext.symm.trans htext')
  have hwritten := hfront (.nil (List.forall_mem_nil _))
  rw [List.append_nil] at hwritten
  have hback : (t.mapWords Bracket.escapedWord).mapWords Bracket.unescapeWord = t :=
    Tree.mapWords_mapWords_eq_self fun _ => hwords.word
  refine readBlock_eq_ok_iff.mpr ⟨_, hwritten.read_eq hnode ht, ?_⟩
  rw [hback]

/-! ### Names of treatments -/

theorem stripFunctions?_eq_ok {functions : Option String} {strip : Bool}
    (h : stripFunctions? functions = .ok strip) : strip = false ↔ functions ≠ some "remove" := by
  unfold stripFunctions? at h
  split at h
  · simp [← Except.ok.inj h]
  · simp [← Except.ok.inj h]
  · simp [← Except.ok.inj h]
  · exact absurd h (by simp)

/-- Let the required root be a label that can stand anywhere, if there is one. Then the tree of every accepted
block is read again from its written form if and only if function tags are left, or no root is required, or
the required root has none; and when it is not for every block, it is for none. A tree that already has such
a root keeps it as its root, without a new one above it. -/
theorem readBlock_writeAs_iff {functions root : Option String} {strip : Bool}
    (hfunctions : stripFunctions? functions = .ok strip) (hroot : ∀ r ∈ root, Label.IsName r) :
    ((∀ b t, readBlock ⟨root, strip⟩ b = .ok t →
        ∃ text, t.writeAs "bracket" = .ok text ∧ readBlock ⟨root, strip⟩ text.toList = .ok t) ↔
      functions ≠ some "remove" ∨ root = none ∨ ∃ r, root = some r ∧ Label.withoutFunction r = r) ∧
    (∀ b t, readBlock ⟨root, strip⟩ b = .ok t →
      ∃ text, t.writeAs "bracket" = .ok text ∧ (readBlock ⟨root, strip⟩ text.toList = .ok t ↔
        functions ≠ some "remove" ∨ root = none ∨ ∃ r, root = some r ∧ Label.withoutFunction r = r)) ∧
    ∀ r, root = some r → (functions ≠ some "remove" ∨ Label.withoutFunction r = r) →
      ∀ b cs, Bracket.read b = .ok (.node r cs) →
        readBlock ⟨root, strip⟩ b =
          .ok (.node r (cs.map fun c => dress ⟨none, strip⟩ (c.mapWords Bracket.unescapeWord))) := by
  have hkeeps : KeepsRoot ⟨root, strip⟩ ↔
      functions ≠ some "remove" ∨ root = none ∨ ∃ r, root = some r ∧ Label.withoutFunction r = r := by
    rw [KeepsRoot, stripFunctions?_eq_ok hfunctions]
  have hagain : ∀ b t, readBlock ⟨root, strip⟩ b = .ok t →
      ∃ text, t.writeAs "bracket" = .ok text ∧
        (readBlock ⟨root, strip⟩ text.toList = .ok t ↔ KeepsRoot ⟨root, strip⟩) := by
    intro b t hread
    obtain ⟨hnode, hwritable, hwords, u, hu, rfl⟩ :=
      isWritable_of_readBlock (fun r hr => (hroot r hr).2) hread
    refine ⟨_, rfl, ?_⟩
    rw [readBlock_of_writeAs rfl hnode hwritable hwords, Except.ok.injEq]
    exact dress_dress_iff (fun r hr => (hroot r hr).1) hu
  refine ⟨?_, ?_, ?_⟩
  · rw [← hkeeps]
    constructor
    · intro hall
      -- Any tree that can be written gives a block that is accepted.
      have hblock := readBlock_of_writeAs (o := ⟨root, strip⟩) (t := .node "A" [.ofWord "a"]) rfl rfl
        (by decide) (by decide)
      obtain ⟨text, htext, hiff⟩ := hagain _ _ hblock
      obtain ⟨text', htext', hread⟩ := hall _ _ hblock
      obtain rfl := Except.ok.inj (htext.symm.trans htext')
      exact hiff.mp hread
    · intro hkeep b t hread
      obtain ⟨text, htext, hiff⟩ := hagain b t hread
      exact ⟨text, htext, hiff.mpr hkeep⟩
  · rw [← hkeeps]
    exact hagain
  · rintro r rfl hkeep b cs hread
    have hne : r ≠ "" := (hroot r rfl).1
    have hlabel : strippedLabel strip r = r := by
      rcases hkeep with hfunctions' | hkeep
      · rw [(stripFunctions?_eq_ok hfunctions).mpr hfunctions']
        rfl
      · cases strip with
        | false => rfl
        | true => exact hkeep
    refine readBlock_eq_ok_iff.mpr ⟨_, hread, ?_⟩
    rw [Tree.mapWords_node, dress_eq, stripped_node, hlabel, List.map_map]
    exact (ensureRoot_node hne r _).trans (if_pos (Or.inr rfl))

/-- With the root `S-X` a tree with function tags is not read again; with `-X-Y`, which begins with a hyphen,
it is. -/
theorem readBlock_writeAs_functionTags :
    stripFunctions? (some "remove") = .ok true ∧ (∀ r ∈ some "S-X", Label.IsName r) ∧
      (∀ r ∈ some "-X-Y", Label.IsName r) ∧
      (∃ t text, readBlock ⟨some "S-X", true⟩ "(NP-SBJ=2 #LRB#)".toList = .ok t ∧
        t.writeAs "bracket" = .ok text ∧ readBlock ⟨some "S-X", true⟩ text.toList ≠ .ok t) ∧
      ∃ t text, readBlock ⟨some "-X-Y", true⟩ "(NP-SBJ=2 #LRB#)".toList = .ok t ∧
        t.writeAs "bracket" = .ok text ∧ readBlock ⟨some "-X-Y", true⟩ text.toList = .ok t := by
  have hread (r : String) : readBlock ⟨some r, true⟩ "(NP-SBJ=2 #LRB#)".toList =
      .ok (dress ⟨some r, true⟩ (.node "NP-SBJ=2" [.ofWord "("])) :=
    readBlock_eq_ok_iff.mpr ⟨.node "NP-SBJ=2" [.ofWord "#LRB#"], by decide +kernel, rfl⟩
  have hremove : stripFunctions? (some "remove") = .ok true := rfl
  have hcut : ∀ r ∈ some "S-X", Label.IsName r := by
    rintro r ⟨rfl⟩
    decide
  have hkept : ∀ r ∈ some "-X-Y", Label.IsName r := by
    rintro r ⟨rfl⟩
    decide
  refine ⟨hremove, hcut, hkept, ?_, ?_⟩
  · obtain ⟨text, htext, hiff⟩ := (readBlock_writeAs_iff hremove hcut).2.1 _ _ (hread "S-X")
    refine ⟨_, text, hread _, htext, hiff.not.mpr ?_⟩
    simp only [ne_eq, not_true_eq_false, false_or, Option.some.injEq, exists_eq_left']
    decide
  · obtain ⟨text, htext, hiff⟩ := (readBlock_writeAs_iff hremove hkept).2.1 _ _ (hread "-X-Y")
    exact ⟨_, text, hread _, htext, hiff.mpr (Or.inr (Or.inr ⟨_, rfl, by decide⟩))⟩

end Treebank

end Constituency
