import Constituency.Proofs.Bracket.Escape
import Mathlib.Data.List.Infix

/-!
# Which words come back from bracket notation

Escaping replaces one kind of bracket after the other (`escape_eq`), and unescaping takes the codes of one
kind back after those of the other. For one kind alone, a text comes back unless the letters of its code
stand behind `#` and in front of `#` or the bracket (`decode_encode_iff`): the bracket lends the letters the
`#` that they need. Codes of the other kind can lend it on both sides (`enclosed_encode`), and then the eight
texts that no recoverable word contains are all there is (`unescapeWord_escapedWord_iff`).
-/
namespace Constituency.Bracket

/-! ### Codes of one kind of bracket -/

/-- The letters of a code, between two `#`. -/
def letters (side : Char) : List Char := [side, 'R', 'B']

/-- Replace one kind of bracket by its code, of which `side` is the first letter. -/
def encode (side bracket : Char) : List Char → List Char
  | [] => []
  | c :: cs =>
      if c = bracket then '#' :: (letters side ++ '#' :: encode side bracket cs)
      else c :: encode side bracket cs

/-- A letter and a bracket that make a code: neither the bracket nor another `#` is among its letters. -/
structure IsCode (side bracket : Char) : Prop where
  bracket_ne : bracket ≠ '#'
  letters_ne : ∀ x ∈ letters side, x ≠ '#' ∧ x ≠ bracket

theorem isCode_opening : IsCode 'L' '(' := ⟨by decide, by decide⟩

theorem isCode_closing : IsCode 'R' ')' := ⟨by decide, by decide⟩

/-- Opening and closing brackets can be replaced one after the other. -/
theorem escape_eq (cs : List Char) : escape cs = encode 'L' '(' (encode 'R' ')' cs) := by
  induction cs with
  | nil => rfl
  | cons c cs ih =>
    rw [escape, encode, ih]
    by_cases hopen : c = '('
    · subst hopen
      simp [encode, openCode, letters]
    by_cases hclose : c = ')'
    · subst hclose
      simp [encode, closeCode, letters]
    · rw [if_neg hopen, if_neg hclose, if_neg hclose, encode, if_neg hopen]

section Code

variable {side bracket : Char}

/-- No bracket of the kind that is replaced is left. -/
theorem bracket_not_mem_encode (h : IsCode side bracket) (cs : List Char) :
    bracket ∉ encode side bracket cs := by
  induction cs with
  | nil => simp [encode]
  | cons c cs ih =>
    rw [encode]
    split_ifs with hc
    · have hletters : bracket ∉ letters side := fun hmem => (h.letters_ne _ hmem).2 rfl
      simp [h.bracket_ne, hletters, ih]
    · exact fun hmem => (List.mem_cons.mp hmem).elim (Ne.symm hc) ih

theorem mem_encode {cs : List Char} {c : Char} (h : c ∈ encode side bracket cs) :
    c = '#' ∨ c ∈ letters side ∨ c ∈ cs := by
  induction cs with
  | nil => exact absurd h (by simp [encode])
  | cons d cs ih =>
    rw [encode] at h
    split_ifs at h with hd
    · rw [List.mem_cons, List.mem_append, List.mem_cons] at h
      rcases h with h | h | h | h
      · exact Or.inl h
      · exact Or.inr (Or.inl h)
      · exact Or.inl h
      · exact (ih h).imp_right (Or.imp_right (List.mem_cons_of_mem d))
    · rcases List.mem_cons.mp h with rfl | h
      · exact Or.inr (Or.inr (List.mem_cons_self ..))
      · exact (ih h).imp_right (Or.imp_right (List.mem_cons_of_mem d))

theorem decode_code (side bracket : Char) (cs : List Char) :
    decode side bracket ('#' :: (letters side ++ '#' :: cs)) = bracket :: decode side bracket cs := by
  simp [letters, decode]

/-- Where no code begins, the first character stays. -/
theorem decode_cons {c : Char} {cs : List Char} (h : ¬ '#' :: (letters side ++ ['#']) <+: c :: cs) :
    decode side bracket (c :: cs) = c :: decode side bracket cs := by
  rw [decode.eq_def]
  split
  · next s rest heq =>
    obtain ⟨rfl, rfl⟩ := List.cons.inj heq
    rw [if_neg]
    rintro rfl
    exact h ⟨rest, rfl⟩
  · next heq =>
    obtain ⟨rfl, rfl⟩ := List.cons.inj heq
    rfl
  · next heq => exact absurd heq (by simp)

/-- A text without the bracket comes back from its decoded form. -/
theorem encode_decode {cs : List Char} (h : bracket ∉ cs) :
    encode side bracket (decode side bracket cs) = cs := by
  fun_induction decode side bracket cs with
  | case1 cs ih =>
    have hcs : bracket ∉ cs := fun hmem => h (by simp [hmem])
    rw [encode, if_pos rfl, ih hcs]
    rfl
  | case2 s cs hs ih =>
    rw [List.mem_cons, not_or] at h
    rw [encode, if_neg (Ne.symm h.1), ih h.2]
  | case3 c cs _ ih =>
    rw [List.mem_cons, not_or] at h
    rw [encode, if_neg (Ne.symm h.1), ih h.2]
  | case4 => rfl

end Code

/-! ### Letters between marks -/

/-- Whether a text begins with a word and one of some characters behind it. -/
def Followed (word behind cs : List Char) : Prop := ∃ y ∈ behind, word ++ [y] <+: cs

/-- Whether somewhere in a text a word stands between one of some characters and one of some others. -/
def Enclosed (front word behind cs : List Char) : Prop :=
  ∃ x ∈ front, ∃ y ∈ behind, x :: (word ++ [y]) <:+: cs

@[simp] theorem not_followed_nil (word behind : List Char) : ¬Followed word behind [] := by
  simp [Followed]

theorem followed_nil_cons {behind cs : List Char} {c : Char} :
    Followed [] behind (c :: cs) ↔ c ∈ behind := by
  simp [Followed, List.cons_prefix_cons]

theorem followed_cons_cons {word behind cs : List Char} {x c : Char} :
    Followed (x :: word) behind (c :: cs) ↔ x = c ∧ Followed word behind cs := by
  simp [Followed, List.cons_prefix_cons]
  tauto

@[simp] theorem not_enclosed_nil (front word behind : List Char) : ¬Enclosed front word behind [] := by
  simp [Enclosed]

theorem enclosed_cons {front word behind cs : List Char} {c : Char} :
    Enclosed front word behind (c :: cs) ↔
      (c ∈ front ∧ Followed word behind cs) ∨ Enclosed front word behind cs := by
  simp only [Enclosed, Followed, List.infix_cons_iff, List.cons_prefix_cons]
  constructor
  · rintro ⟨x, hx, y, hy, ⟨rfl, hcs⟩ | hcs⟩
    · exact Or.inl ⟨hx, y, hy, hcs⟩
    · exact Or.inr ⟨x, hx, y, hy, hcs⟩
  · rintro (⟨hc, y, hy, hcs⟩ | ⟨x, hx, y, hy, hcs⟩)
    · exact ⟨c, hc, y, hy, Or.inl ⟨rfl, hcs⟩⟩
    · exact ⟨x, hx, y, hy, Or.inr hcs⟩

/-- Characters that are no front are passed over. -/
theorem enclosed_append {front word behind passed : List Char} (h : ∀ c ∈ passed, c ∉ front)
    (cs : List Char) : Enclosed front word behind (passed ++ cs) ↔ Enclosed front word behind cs := by
  induction passed with
  | nil => rfl
  | cons c passed ih =>
    rw [List.forall_mem_cons] at h
    rw [List.cons_append, enclosed_cons, ih h.2]
    exact or_iff_right fun hc => h.1 hc.1

section Code

variable {side bracket : Char}

/-- A code that replaces a bracket begins with `#`, so it can follow a word that `#` can follow. -/
theorem followed_encode {word behind : List Char} (hword : ∀ x ∈ word, x ≠ '#' ∧ x ≠ bracket)
    (hmark : '#' ∈ behind) (cs : List Char) :
    Followed word behind (encode side bracket cs) ↔ Followed word (behind ++ [bracket]) cs := by
  induction cs generalizing word with
  | nil => simp [encode]
  | cons c cs ih =>
    rw [encode]
    cases word with
    | nil =>
      split_ifs with hc
      · simp [followed_nil_cons, hmark, hc]
      · simp [followed_nil_cons, hc]
    | cons x word =>
      rw [List.forall_mem_cons] at hword
      obtain ⟨⟨hx, hxb⟩, hword⟩ := hword
      split_ifs with hc
      · simp [followed_cons_cons, hx, hc, hxb]
      · rw [followed_cons_cons, followed_cons_cons, ih hword]

variable (h : IsCode side bracket)

include h

/-- Where a code begins after one kind of bracket was replaced, a bracket of this kind may have lent it
its last character. -/
theorem code_prefix_iff {c : Char} (cs : List Char) :
    '#' :: (letters side ++ ['#']) <+: c :: encode side bracket cs ↔
      c = '#' ∧ Followed (letters side) ['#', bracket] cs := by
  have hfollowed : Followed (letters side) ['#'] (encode side bracket cs) ↔
      Followed (letters side) ['#', bracket] cs := followed_encode h.letters_ne (by simp) cs
  rw [← hfollowed, List.cons_prefix_cons, eq_comm]
  simp [Followed]

/-- With one kind of bracket, a text comes back unless the letters of its code stand behind `#`, and in front
of `#` or such a bracket. -/
theorem decode_encode_iff (cs : List Char) :
    decode side bracket (encode side bracket cs) = cs ↔
      ¬Enclosed ['#'] (letters side) ['#', bracket] cs := by
  induction cs with
  | nil => simp [encode, decode]
  | cons c cs ih =>
    rw [encode, enclosed_cons]
    by_cases hc : c = bracket
    · have hmark : c ∉ ['#'] := by simpa [hc] using h.bracket_ne
      rw [if_pos hc, decode_code, hc, List.cons.injEq, ih, ← hc]
      simp [hmark]
    rw [if_neg hc]
    by_cases hcode : c = '#' ∧ Followed (letters side) ['#', bracket] cs
    · -- The first character and what follows it are read as a code.
      obtain ⟨rest, hrest⟩ := (code_prefix_iff h cs).mpr hcode
      have hdecode : decode side bracket (c :: encode side bracket cs) = bracket :: decode side bracket rest := by
        rw [← hrest, ← decode_code]
        simp
      rw [hdecode]
      simp [h.bracket_ne, hcode]
    · rw [decode_cons (mt (code_prefix_iff h cs).mp hcode), List.cons.injEq, ih]
      simp only [List.mem_singleton, hcode, false_or, true_and]

/-- A word that does not begin like a code gets between the codes of another kind of bracket. -/
theorem enclosed_encode {x : Char} {word behind : List Char} (hx : x ≠ side)
    (hword : ∀ y ∈ x :: word, y ≠ '#' ∧ y ≠ bracket) (hmark : '#' ∈ behind)
    (cs : List Char) :
    Enclosed ['#'] (x :: word) behind (encode side bracket cs) ↔
      Enclosed ['#', bracket] (x :: word) (behind ++ [bracket]) cs := by
  induction cs with
  | nil => simp [encode]
  | cons c cs ih =>
    have hfollowed : Followed (x :: word) behind (encode side bracket cs) ↔
        Followed (x :: word) (behind ++ [bracket]) cs := followed_encode hword hmark cs
    rw [encode]
    split_ifs with hc
    · have hletters : ∀ y ∈ letters side, y ∉ ['#'] := fun y hy => by simpa using (h.letters_ne y hy).1
      have hnot : ¬Followed (x :: word) behind (letters side ++ '#' :: encode side bracket cs) := by
        rw [letters, List.cons_append, followed_cons_cons]
        exact fun hside => hx hside.1
      rw [enclosed_cons, enclosed_append hletters, enclosed_cons, ih, hfollowed, enclosed_cons]
      simp [hc, hnot]
    · rw [enclosed_cons, enclosed_cons, ih, hfollowed]
      simp [hc]

end Code

/-! ### Both kinds of brackets -/

/-- Texts that stand in no word that comes back from bracket notation. -/
def collisions : List String :=
  ["#LRB#", "#LRB(", "#LRB)", ")LRB#", ")LRB(", ")LRB)", "#RRB#", "#RRB)"]

theorem unescape_escape_iff (cs : List Char) :
    unescape (escape cs) = cs ↔
      decode 'L' '(' (encode 'L' '(' (encode 'R' ')' cs)) = encode 'R' ')' cs ∧
        decode 'R' ')' (encode 'R' ')' cs) = cs := by
  rw [unescape, escape_eq]
  constructor
  · intro hback
    let decoded := decode 'L' '(' (encode 'L' '(' (encode 'R' ')' cs))
    have hclose : ')' ∉ decoded := by
      intro hmem
      rcases mem_decode hmem with hc | hmem
      · exact absurd hc (by decide)
      · rcases mem_encode hmem with hc | hc | hc
        · exact absurd hc (by decide)
        · exact absurd hc (by decide)
        · exact bracket_not_mem_encode isCode_closing cs hc
    have hdecoded : decoded = encode 'R' ')' cs := by
      rw [← encode_decode hclose]
      exact congrArg (encode 'R' ')') hback
    exact ⟨hdecoded, by rw [← hdecoded]; exact hback⟩
  · rintro ⟨hopen, hclose⟩
    rw [hopen, hclose]

/-- Unescaping and escaping a word without brackets gives the word. Escaping and unescaping a word gives the
word if and only if none of the eight collisions stands in it. -/
theorem unescapeWord_escapedWord_iff :
    (∀ w : String, '(' ∉ w.toList → ')' ∉ w.toList → escapedWord (unescapeWord w) = w) ∧
      ∀ w : String, unescapeWord (escapedWord w) = w ↔ ∀ p ∈ collisions, ¬p.toList <:+: w.toList := by
  constructor
  · intro w hopen hclose
    rw [escapedWord, unescapeWord, String.toList_ofList, escape_unescape, escape_eq_self hopen hclose,
      String.ofList_toList]
  · intro w
    have hword : unescapeWord (escapedWord w) = w ↔ unescape (escape w.toList) = w.toList := by
      rw [unescapeWord, escapedWord, String.toList_ofList, ← String.toList_inj, String.toList_ofList]
    have hopening : Enclosed ['#'] (letters 'L') ['#', '('] (encode 'R' ')' w.toList) ↔
        Enclosed ['#', ')'] (letters 'L') ['#', '(', ')'] w.toList :=
      enclosed_encode isCode_closing (by decide) (by decide) (by decide) w.toList
    rw [hword, unescape_escape_iff, decode_encode_iff isCode_opening, decode_encode_iff isCode_closing, hopening]
    generalize w.toList = cs
    simp [Enclosed, collisions, letters, and_assoc]

/-- A bracket in front of the letters of a code does no harm, and one behind them does if `#` stands in front
of them: both have the same written form. -/
theorem unescapeWord_escapedWord_lentMark :
    ('(' ∉ "#LRB#LRB#".toList ∧ ')' ∉ "#LRB#LRB#".toList ∧
      escapedWord (unescapeWord "#LRB#LRB#") = "#LRB#LRB#") ∧
    unescapeWord (escapedWord "(LRB#") = "(LRB#" ∧ unescapeWord (escapedWord "#LRB(") ≠ "#LRB(" := by
  obtain ⟨hescape, hback⟩ := unescapeWord_escapedWord_iff
  have hopen : '(' ∉ "#LRB#LRB#".toList := by decide
  have hclose : ')' ∉ "#LRB#LRB#".toList := by decide
  refine ⟨⟨hopen, hclose, hescape _ hopen hclose⟩, (hback _).mpr (by decide), fun h => ?_⟩
  exact (hback _).mp h "#LRB(" (by decide) (List.infix_refl _)

end Constituency.Bracket
