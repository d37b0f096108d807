import Constituency.Proofs.Bracket.Language
import Constituency.Proofs.Bracket.Readable

/-!
# Printed trees that are read back

A text in which a plain node is written is read as this node, whatever the layout (`IsTextOf.read_eq`). So
the trees that bracket notation can hold without escaping are the results of reading, and the trees that
are read from their own text. A tree that is broken into lines is printed if and only if all its lines can
be indented (`layout_eq`), as they can be below any usual depth (`layout_eq_ok`).
-/
namespace Constituency.Bracket

variable {t : Tree}

instance (t : Tree) : Decidable (IsPlainTree t) :=
  decidable_of_iff (t.IsWritable ∧ ∀ w ∈ t.leaves, ∀ s ∈ w, ∀ c ∈ s.toList, isPlain c = true)
    ⟨fun h => ⟨h.1, fun s hs => h.2 _ hs s rfl⟩, fun h => ⟨h.writable, fun _ hw s hs => h.plain s (hs ▸ hw)⟩⟩

/-- Nothing is escaped in the text of a plain tree. -/
theorem IsPlainTree.mapWords_escapedWord (h : IsPlainTree t) : t.mapWords escapedWord = t :=
  Tree.mapWords_eq_self fun w hw => escapedWord_eq_self (h.plain w hw)

/-- A text in which nothing but a node is written is read as this node, with its words as they were
escaped. -/
theorem Written.read_eq {text : List Char} (h : Written [t] text) (hnode : t.isLeaf = false)
    (hwritable : t.IsWritable) : read text = .ok (t.mapWords escapedWord) := by
  cases h with
  | leaf => exact absurd hnode (by simp [Tree.isLeaf])
  | @node gap inner body l cs _ hgap hinner hbody =>
    obtain ⟨hend⟩ := hbody
    have hread := (read_gap_append hgap.isBlank hend.isBlank _).mpr (hinner.read_node hwritable)
    simpa using hread

/-- Each text of a plain node is read as the node. -/
theorem IsTextOf.read_eq {text : String} (htext : IsTextOf t text.toList) (h : IsPlainTree t)
    (hnode : t.isLeaf = false) : Tree.read text = .ok t := by
  have hend : IsGap [] := List.forall_mem_nil _
  have hwritten := htext.written hnode (.nil hend)
  rw [List.append_nil] at hwritten
  rw [Tree.read, hwritten.read_eq hnode h.writable, h.mapWords_escapedWord]

theorem IsPlainTree.read_flatText (h : IsPlainTree t) (hnode : t.isLeaf = false) :
    Tree.read t.flatText = .ok t := by
  refine IsTextOf.read_eq ?_ h hnode
  rw [Tree.flatText_eq, String.toList_ofList]
  exact isTextOf_flat t

theorem IsPlainTree.read_prettyText (h : IsPlainTree t) (hnode : t.isLeaf = false) (margin indent : Int) :
    Tree.read (t.prettyText margin indent) = .ok t := by
  refine IsTextOf.read_eq ?_ h hnode
  rw [Tree.prettyText_eq, String.toList_ofList]
  exact isTextOf_pretty margin indent t

end Constituency.Bracket

namespace Constituency.Tree

/-! ### Lines that can be indented -/

mutual

/-- The numbers of spaces in front of the lines of a tree, the first one apart. -/
def indentations (margin indent : Int) : Tree → List Int
  | leaf _ => []
  | node l cs =>
      if ((node l cs).flat.length : Int) + indent < margin then []
      else indentationsAll margin (indent + 2) cs

/-- The numbers of spaces in front of trees on lines of their own. -/
def indentationsAll (margin indent : Int) : List Tree → List Int
  | [] => []
  | c :: cs => indent :: indentations margin indent c ++ indentationsAll margin indent cs

end

mutual

theorem layoutOnto_eq (margin indent : Int) : ∀ (t : Tree) (rest : List Char),
    t.layoutOnto margin indent rest =
      if ∀ n ∈ t.indentations margin indent, isReachable n then .ok (t.pretty margin indent ++ rest)
      else .error .outOfReach
  | leaf w, rest => by simp [layoutOnto, indentations, pretty, pure, Except.pure]
  | node l cs, rest => by
      simp only [layoutOnto, indentations, pretty, flatOnto_eq, List.append_nil]
      split
      · simp [pure, Except.pure]
      · rw [layoutAllOnto_eq margin (indent + 2) cs]
        split <;> simp [bind, Except.bind, pure, Except.pure]

theorem layoutAllOnto_eq (margin indent : Int) : ∀ (cs : List Tree) (rest : List Char),
    layoutAllOnto margin indent cs rest =
      if ∀ n ∈ indentationsAll margin indent cs, isReachable n then
        .ok (prettyAll margin indent cs ++ rest)
      else .error .outOfReach
  | [], rest => by simp [layoutAllOnto, indentationsAll, prettyAll, pure, Except.pure]
  | c :: cs, rest => by
      simp only [layoutAllOnto, indentationsAll, prettyAll, layoutAllOnto_eq margin indent cs,
        layoutOnto_eq margin indent c, Text.checkSpaces, List.cons_append, List.forall_mem_cons,
        List.forall_mem_append]
      -- the line itself, the lines of what follows, and the further lines of the tree that begins here
      by_cases hfirst : isReachable indent = true
      · by_cases hbelow : ∀ n ∈ indentationsAll margin indent cs, isReachable n = true
        · by_cases hlines : ∀ n ∈ c.indentations margin indent, isReachable n = true
          · rw [if_pos hfirst, if_pos hbelow, if_pos ⟨hfirst, hlines, hbelow⟩]
            simp [if_pos hlines, bind, Except.bind, pure, Except.pure]
          · rw [if_pos hfirst, if_pos hbelow, if_neg (fun h => hlines h.2.1 : ¬(_ ∧ _ ∧ _))]
            simp [if_neg hlines, bind, Except.bind]
        · rw [if_pos hfirst, if_neg hbelow, if_neg (fun h => hbelow h.2.2 : ¬(_ ∧ _ ∧ _))]
          rfl
      · rw [if_neg hfirst, if_neg (fun h => hfirst h.1 : ¬(_ ∧ _))]
        rfl

end

/-- A tree is printed if all its lines can be indented. -/
theorem layout_eq (t : Tree) (margin indent : Int) :
    t.layout margin indent =
      if ∀ n ∈ t.indentations margin indent, isReachable n then .ok (t.prettyText margin indent)
      else .error .outOfReach := by
  simp only [layout, layoutOnto_eq, prettyText_eq, List.append_nil]
  split <;> rfl

mutual

theorem exists_of_mem_indentations {margin indent n : Int} : ∀ t : Tree, n ∈ t.indentations margin indent →
    ∃ k : Nat, k ≤ t.height ∧ n = indent + 2 * k
  | leaf w, h => absurd h (by simp [indentations])
  | node l cs, h => by
      rw [indentations] at h
      split_ifs at h
      · exact absurd h (by simp)
      · obtain ⟨k, hk, rfl⟩ := exists_of_mem_indentationsAll cs h
        exact ⟨k + 1, by rw [height]; omega, by omega⟩

theorem exists_of_mem_indentationsAll {margin indent n : Int} : ∀ cs : List Tree,
    n ∈ indentationsAll margin indent cs → ∃ k : Nat, k ≤ heightAll cs ∧ n = indent + 2 * k
  | [], h => absurd h (by simp [indentationsAll])
  | c :: cs, h => by
      rw [indentationsAll, List.cons_append, List.mem_cons, List.mem_append] at h
      rw [heightAll]
      rcases h with rfl | h | h
      · exact ⟨0, by omega, by simp⟩
      · obtain ⟨k, hk, rfl⟩ := exists_of_mem_indentations c h
        exact ⟨k, by omega, rfl⟩
      · obtain ⟨k, hk, rfl⟩ := exists_of_mem_indentationsAll cs h
        exact ⟨k, by omega, rfl⟩

end

/-- Each line is indented by two more spaces for each node that it is in, so a tree is printed unless it is
deeper than a machine can count. -/
theorem layout_eq_ok {t : Tree} {margin indent : Int} (hfirst : isReachable indent)
    (hlast : isReachable (indent + 2 * t.height)) :
    t.layout margin indent = .ok (t.prettyText margin indent) := by
  rw [layout_eq, if_pos]
  intro n hn
  obtain ⟨k, hk, rfl⟩ := exists_of_mem_indentations t hn
  rw [isReachable_iff] at hfirst hlast ⊢
  omega

end Constituency.Tree

namespace Constituency.Bracket

/-- A node is read from its own text if and only if bracket notation can hold it as it is, and these are
the trees that are read from any text. Such a node is also read from its text within any margin, which is
printed if and only if the number of spaces in front of each line is a signed one of 64 bits. -/
theorem read_flatText_iff (t : Tree) :
    (Tree.read t.flatText = .ok t ↔ IsPlainTree t ∧ t.isLeaf = false) ∧
    ((∃ s, Tree.read s = .ok t) ↔ IsPlainTree t ∧ t.isLeaf = false) ∧
    (∀ s, Tree.read s = .ok t → Tree.read t.flatText = .ok t) ∧
    (IsPlainTree t → t.isLeaf = false → ∀ margin indent : Int,
      Tree.read (t.prettyText margin indent) = .ok t ∧
      (∀ text, t.layout margin indent = .ok text → Tree.read text = .ok t) ∧
      t.layout margin indent =
        if ∀ n ∈ t.indentations margin indent, isReachable n then .ok (t.prettyText margin indent)
        else .error .outOfReach) := by
  have hplain {s : String} (h : Tree.read s = .ok t) : IsPlainTree t ∧ t.isLeaf = false :=
    isPlainTree_of_read h
  have hflat (h : IsPlainTree t ∧ t.isLeaf = false) : Tree.read t.flatText = .ok t :=
    h.1.read_flatText h.2
  refine ⟨⟨hplain, hflat⟩, ⟨fun ⟨s, hs⟩ => hplain hs, fun h => ⟨_, hflat h⟩⟩, fun s hs => hflat (hplain hs),
    fun h hnode margin indent => ?_⟩
  have hread := h.read_prettyText hnode margin indent
  refine ⟨hread, fun text htext => ?_, t.layout_eq margin indent⟩
  rw [Tree.layout_eq] at htext
  split_ifs at htext with hreach
  obtain rfl := Except.ok.inj htext
  exact hread

/-- A tree with an empty label and a node without children, over four lines. -/
theorem read_flatText_iff_fourLines :
    Tree.read (Tree.prettyText (.node "" [.node "A" [.ofWord "a"], .node "B" []]) 8 1) =
      .ok (.node "" [.node "A" [.ofWord "a"], .node "B" []]) :=
  ((read_flatText_iff (.node "" [.node "A" [.ofWord "a"], .node "B" []])).2.2.2 (by decide) rfl 8 1).1

/-- A tree is not printed if its lines would be indented by a number of spaces that is no signed one of 64
bits, though a negative number of spaces is none. -/
theorem not_layout_outOfReach :
    IsPlainTree (.node "A" [.node "B" [.ofWord "b"]]) ∧
    ¬∃ text, Tree.layout (.node "A" [.node "B" [.ofWord "b"]]) (-9223372036854775908)
        (-9223372036854775811) = .ok text ∧
      Tree.read text = .ok (.node "A" [.node "B" [.ofWord "b"]]) := by
  have hlayout : Tree.layout (.node "A" [.node "B" [.ofWord "b"]]) (-9223372036854775908)
      (-9223372036854775811) = .error .outOfReach := by rfl
  refine ⟨by decide, ?_⟩
  rintro ⟨text, htext, -⟩
  rw [hlayout] at htext
  exact absurd htext (by simp)

end Constituency.Bracket
