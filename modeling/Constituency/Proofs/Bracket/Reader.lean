import Constituency.Bracket.Reader
import Constituency.Proofs.Bracket.Escape

/-!
# Reading by the text

What a text is read as does not depend on where its tokens stand (`toOption_readFrom`). So reading goes
through the characters of a text, with the open nodes and the tree that is complete as its state
(`readOnto`): blanks are passed over, an opening bracket takes its label with it, a closing bracket attaches
the innermost open node, and a word becomes a leaf of this node.
-/
namespace Constituency.Bracket

/-! ### One token -/

section

variable (stack fs : List Frame) (f : Frame) (done : Option Tree) (start : Nat) (rest : List Lexeme)

theorem readFrom_opening (gap label : List Char) :
    readFrom stack done (⟨start, .opening gap label⟩ :: rest) =
      if stack.isEmpty && done.isSome then .error ⟨.ending, some ⟨start, .opening gap label⟩⟩
      else readFrom (⟨label, []⟩ :: stack) done rest := by
  cases stack <;> cases done <;> rfl

theorem readFrom_closing_nil :
    readFrom [] done (⟨start, .closing⟩ :: rest) =
      .error ⟨if done.isSome then .ending else .opening, some ⟨start, .closing⟩⟩ := by
  cases done <;> rfl

theorem readFrom_closing :
    readFrom (f :: fs) done (⟨start, .closing⟩ :: rest) =
      readFrom (attach (.node (String.ofList f.label) f.children.reverse) fs done).1
        (attach (.node (String.ofList f.label) f.children.reverse) fs done).2 rest := rfl

theorem readFrom_word_nil (cs : List Char) :
    readFrom [] done (⟨start, .word cs⟩ :: rest) = .error ⟨.opening, some ⟨start, .word cs⟩⟩ := by
  cases done <;> rfl

theorem readFrom_word (cs : List Char) :
    readFrom (f :: fs) done (⟨start, .word cs⟩ :: rest) =
      readFrom (⟨f.label, .ofWord (String.ofList cs) :: f.children⟩ :: fs) done rest := rfl

end

/-- Only the tokens decide what is read, not their places. -/
theorem toOption_readFrom {xs ys : List Lexeme} (h : xs.map (·.token) = ys.map (·.token))
    (stack : List Frame) (done : Option Tree) :
    (readFrom stack done xs).toOption = (readFrom stack done ys).toOption := by
  induction xs generalizing ys stack done with
  | nil =>
    obtain rfl := List.map_eq_nil_iff.mp h.symm
    rfl
  | cons x xs ih =>
    obtain ⟨y, ys, rfl, hxy, hrest⟩ := List.map_eq_cons_iff.mp h.symm
    obtain ⟨start, token⟩ := x
    obtain ⟨start', token'⟩ := y
    dsimp only at hxy
    subst hxy
    cases token' with
    | opening gap label =>
      rw [readFrom_opening, readFrom_opening]
      split
      · rfl
      · exact ih hrest.symm _ _
    | closing =>
      cases stack with
      | nil => rw [readFrom_closing_nil, readFrom_closing_nil]; rfl
      | cons f fs =>
        rw [readFrom_closing, readFrom_closing]
        exact ih hrest.symm _ _
    | word cs =>
      cases stack with
      | nil => rw [readFrom_word_nil, readFrom_word_nil]; rfl
      | cons f fs =>
        rw [readFrom_word, readFrom_word]
        exact ih hrest.symm _ _

/-! ### One character -/

theorem lexFrom_nil (start : Nat) : lexFrom start [] = [] := by rw [lexFrom]

theorem lexFrom_cons (start : Nat) (c : Char) (cs : List Char) :
    lexFrom start (c :: cs) =
      if c = '(' then
        ⟨start, .opening (cs.takeWhile Text.isBlank) ((Text.dropBlanks cs).takeWhile isPlain)⟩ ::
          lexFrom (start + 1 + (cs.takeWhile Text.isBlank).length +
              ((Text.dropBlanks cs).takeWhile isPlain).length)
            ((Text.dropBlanks cs).dropWhile isPlain)
      else if c = ')' then ⟨start, .closing⟩ :: lexFrom (start + 1) cs
      else if Text.isBlank c then lexFrom (start + 1) cs
      else
        ⟨start, .word (c :: cs.takeWhile isPlain)⟩ ::
          lexFrom (start + 1 + (cs.takeWhile isPlain).length) (cs.dropWhile isPlain) := by
  rw [lexFrom]
  rfl

/-- The tokens of a text do not depend on where the text starts. -/
theorem map_token_lexFrom (start start' : Nat) (cs : List Char) :
    (lexFrom start cs).map (·.token) = (lexFrom start' cs).map (·.token) := by
  fun_induction lexFrom start cs generalizing start' with
  | case1 => rw [lexFrom_nil]
  | case2 start cs gap rest label ih =>
    rw [lexFrom_cons, if_pos rfl, List.map_cons, List.map_cons, ih]
    rfl
  | case3 start cs hopen ih =>
    rw [lexFrom_cons, if_neg hopen, if_pos rfl, List.map_cons, List.map_cons, ih]
  | case4 start c cs hopen hclose hblank ih =>
    rw [lexFrom_cons, if_neg hopen, if_neg hclose, if_pos hblank, ih]
  | case5 start c cs hopen hclose hblank more ih =>
    rw [lexFrom_cons, if_neg hopen, if_neg hclose, if_neg hblank, List.map_cons, List.map_cons, ih]

theorem lexFrom_plain {c : Char} (h : isPlain c = true) (start : Nat) (cs : List Char) :
    lexFrom start (c :: cs) = ⟨start, .word (c :: cs.takeWhile isPlain)⟩ ::
      lexFrom (start + 1 + (cs.takeWhile isPlain).length) (cs.dropWhile isPlain) := by
  obtain ⟨hblank, hopen, hclose⟩ := isPlain_iff.mp h
  rw [lexFrom_cons, if_neg hopen, if_neg hclose, if_neg (by simp [hblank])]

/-- What a text completes the open nodes to. -/
def readOnto (stack : List Frame) (done : Option Tree) (cs : List Char) : Option Tree :=
  (readFrom stack done (lex cs)).toOption

theorem toOption_readFrom_lexFrom (stack : List Frame) (done : Option Tree) (start : Nat)
    (cs : List Char) : (readFrom stack done (lexFrom start cs)).toOption = readOnto stack done cs :=
  toOption_readFrom (map_token_lexFrom start 0 cs) stack done

theorem read_eq_ok_iff {cs : List Char} {t : Tree} : read cs = .ok t ↔ readOnto [] none cs = some t := by
  unfold read readOnto
  cases readFrom [] none (lex cs) <;> simp [Except.toOption]

@[simp] theorem readOnto_nil (done : Option Tree) : readOnto [] done [] = done := by
  rw [readOnto, lex, lexFrom_nil]
  cases done <;> rfl

@[simp] theorem readOnto_cons_nil (f : Frame) (fs : List Frame) (done : Option Tree) :
    readOnto (f :: fs) done [] = none := by
  rw [readOnto, lex, lexFrom_nil]
  rfl

/-! ### One step -/

variable (stack fs : List Frame) (f : Frame) (done : Option Tree)

theorem readOnto_blank {c : Char} (h : Text.isBlank c = true) (cs : List Char) :
    readOnto stack done (c :: cs) = readOnto stack done cs := by
  obtain ⟨hopen, hclose⟩ := ne_bracket_of_isBlank h
  rw [readOnto, lex, lexFrom_cons, if_neg hopen, if_neg hclose, if_pos h, toOption_readFrom_lexFrom]

theorem readOnto_opening (cs : List Char) :
    readOnto stack done ('(' :: cs) =
      if stack.isEmpty && done.isSome then none
      else readOnto (⟨(Text.dropBlanks cs).takeWhile isPlain, []⟩ :: stack) done
        ((Text.dropBlanks cs).dropWhile isPlain) := by
  rw [readOnto, lex, lexFrom_cons, if_pos rfl, readFrom_opening]
  split
  · rfl
  · exact toOption_readFrom_lexFrom _ _ _ _

@[simp] theorem readOnto_closing_nil (cs : List Char) : readOnto [] done (')' :: cs) = none := by
  rw [readOnto, lex, lexFrom_cons, if_neg (by decide), if_pos rfl, readFrom_closing_nil]
  rfl

@[simp] theorem readOnto_closing (cs : List Char) :
    readOnto (f :: fs) done (')' :: cs) =
      readOnto (attach (.node (String.ofList f.label) f.children.reverse) fs done).1
        (attach (.node (String.ofList f.label) f.children.reverse) fs done).2 cs := by
  rw [readOnto, lex, lexFrom_cons, if_neg (by decide), if_pos rfl, readFrom_closing]
  exact toOption_readFrom_lexFrom _ _ _ _

theorem readOnto_plain_nil {c : Char} (h : isPlain c = true) (cs : List Char) :
    readOnto [] done (c :: cs) = none := by
  rw [readOnto, lex, lexFrom_plain h, readFrom_word_nil]
  rfl

theorem readOnto_plain {c : Char} (h : isPlain c = true) (cs : List Char) :
    readOnto (f :: fs) done (c :: cs) =
      readOnto (⟨f.label, .ofWord (String.ofList (c :: cs.takeWhile isPlain)) :: f.children⟩ :: fs) done
        (cs.dropWhile isPlain) := by
  rw [readOnto, lex, lexFrom_plain h, readFrom_word]
  exact toOption_readFrom_lexFrom _ _ _ _

/-- What holds of the empty text, and of a text if it holds behind its first token or blank, holds of every
text. -/
@[elab_as_elim]
theorem text_induction {motive : List Char → Prop} (nil : motive [])
    (opening : ∀ cs, motive ((Text.dropBlanks cs).dropWhile isPlain) → motive ('(' :: cs))
    (closing : ∀ cs, motive cs → motive (')' :: cs))
    (blank : ∀ c cs, Text.isBlank c = true → motive cs → motive (c :: cs))
    (word : ∀ c cs, isPlain c = true → motive (cs.dropWhile isPlain) → motive (c :: cs))
    (cs : List Char) : motive cs := by
  refine lexFrom.induct (motive := fun _ cs => motive cs) ?_ ?_ ?_ ?_ ?_ 0 cs
  · exact fun _ => nil
  · exact fun _ cs ih => opening cs ih
  · exact fun _ cs _ ih => closing cs ih
  · exact fun _ c cs _ _ hblank ih => blank c cs hblank ih
  · exact fun _ c cs hopen hclose hblank ih =>
      word c cs (isPlain_iff.mpr ⟨by simpa using hblank, hopen, hclose⟩) ih

/-! ### Whole tokens -/

/-- A text in front of which every label and every word ends. -/
def IsBoundary (cs : List Char) : Prop := ∀ c ∈ cs.head?, isPlain c = false

@[simp] theorem isBoundary_cons {c : Char} {cs : List Char} :
    IsBoundary (c :: cs) ↔ isPlain c = false := by
  simp [IsBoundary]

variable {cs : List Char}

theorem IsBoundary.takeWhile_eq_nil (h : IsBoundary cs) : cs.takeWhile isPlain = [] := by
  cases cs with
  | nil => rfl
  | cons c cs => rw [List.takeWhile_cons_of_neg (by simp [isBoundary_cons.mp h])]

theorem IsBoundary.dropWhile_eq_self (h : IsBoundary cs) : cs.dropWhile isPlain = cs := by
  cases cs with
  | nil => rfl
  | cons c cs => rw [List.dropWhile_cons_of_neg (by simp [isBoundary_cons.mp h])]

theorem readOnto_dropBlanks (cs : List Char) :
    readOnto stack done (Text.dropBlanks cs) = readOnto stack done cs := by
  induction cs with
  | nil => rfl
  | cons c cs ih =>
    rw [Text.dropBlanks, List.dropWhile_cons]
    split
    · next h => rw [readOnto_blank stack done h, ← ih, Text.dropBlanks]
    · rfl

/-- A gap in front of a text is passed over. -/
theorem readOnto_gap {gap : List Char} (h : ∀ c ∈ gap, Text.isBlank c = true) (cs : List Char) :
    readOnto stack done (gap ++ cs) = readOnto stack done cs := by
  rw [← readOnto_dropBlanks, Text.dropBlanks, List.dropWhile_append_of_pos h, ← Text.dropBlanks,
    readOnto_dropBlanks]

/-- A word behind a node that is open. -/
theorem readOnto_word {c : Char} {word : List Char} (hc : isPlain c = true)
    (hword : ∀ d ∈ word, isPlain d = true) (hcs : IsBoundary cs) :
    readOnto (f :: fs) done (c :: word ++ cs) =
      readOnto (⟨f.label, .ofWord (String.ofList (c :: word)) :: f.children⟩ :: fs) done cs := by
  rw [List.cons_append, readOnto_plain _ _ _ hc, List.takeWhile_append_of_pos hword,
    List.dropWhile_append_of_pos hword, hcs.takeWhile_eq_nil, hcs.dropWhile_eq_self, List.append_nil]

/-- An opening bracket takes its label with it, and with an empty label the gap behind it; no word must
follow there. -/
theorem readOnto_label {label : List Char} (hstack : (stack.isEmpty && done.isSome) = false)
    (hlabel : ∀ c ∈ label, isPlain c = true) (hcs : IsBoundary cs)
    (hempty : label = [] → IsBoundary (Text.dropBlanks cs)) :
    readOnto stack done ('(' :: (label ++ cs)) =
      readOnto (⟨label, []⟩ :: stack) done cs := by
  rw [readOnto_opening, if_neg (by simp [hstack])]
  cases label with
  | nil =>
    rw [List.nil_append, (hempty rfl).takeWhile_eq_nil, (hempty rfl).dropWhile_eq_self,
      readOnto_dropBlanks]
  | cons c label =>
    have hblank := (isPlain_iff.mp (hlabel c (List.mem_cons_self ..))).1
    rw [Text.dropBlanks, List.cons_append, List.dropWhile_cons_of_neg (by simp [hblank]),
      ← List.cons_append, List.takeWhile_append_of_pos hlabel, List.dropWhile_append_of_pos hlabel,
      hcs.takeWhile_eq_nil, hcs.dropWhile_eq_self, List.append_nil]

end Constituency.Bracket
