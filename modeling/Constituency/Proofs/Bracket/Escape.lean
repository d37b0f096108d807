import Constituency.Bracket.Escape
import Constituency.Bracket.Token
import Mathlib.Data.List.Basic

/-!
# Laws of escaped brackets

A code is escaped to itself and a bracket to its code, so unescaping before escaping changes nothing
(`escape_unescape`). What stands in bracket notation for a word without blanks has neither blanks nor
brackets (`isPlain_of_mem_escape`), and a word that was read from there is written there again
(`escapedWord_unescapeWord`).
-/
namespace Constituency.Bracket

/-- What all characters of a text have in common is decided along the text. There are finitely many
characters, but too many to go through all of them. -/
instance decidableForallMem (p : Char → Prop) [DecidablePred p] (cs : List Char) :
    Decidable (∀ c ∈ cs, p c) := List.decidableBAll p cs

theorem isPlain_iff {c : Char} :
    isPlain c = true ↔ Text.isBlank c = false ∧ c ≠ '(' ∧ c ≠ ')' := by
  simp [isPlain, and_assoc]

theorem isPlain_eq_false_of_isBlank {c : Char} (h : Text.isBlank c = true) : isPlain c = false := by
  simp [isPlain, h]

theorem ne_bracket_of_isPlain {c : Char} (h : isPlain c = true) : c ≠ '(' ∧ c ≠ ')' :=
  (isPlain_iff.mp h).2

theorem ne_bracket_of_isBlank {c : Char} (h : Text.isBlank c = true) : c ≠ '(' ∧ c ≠ ')' := by
  constructor <;> rintro rfl <;> exact absurd h (by decide)

/-- A code that is replaced by its bracket is escaped again. -/
theorem escape_decode {side bracket : Char}
    (h : ∀ cs, escape (bracket :: cs) = '#' :: side :: 'R' :: 'B' :: '#' :: escape cs)
    (hopen : side ≠ '(') (hclose : side ≠ ')') (cs : List Char) :
    escape (decode side bracket cs) = escape cs := by
  fun_induction decode side bracket cs with
  | case1 cs ih =>
    rw [h, ih]
    simp [escape, hopen, hclose]
  | case2 s cs hs ih => rw [escape, escape, ih]
  | case3 c cs _ ih => rw [escape, escape, ih]
  | case4 => rfl

theorem escape_unescape (cs : List Char) : escape (unescape cs) = escape cs := by
  rw [unescape, escape_decode (by simp [escape, closeCode]) (by decide) (by decide),
    escape_decode (by simp [escape, openCode]) (by decide) (by decide)]

theorem escape_eq_self {cs : List Char} (hopen : '(' ∉ cs) (hclose : ')' ∉ cs) : escape cs = cs := by
  induction cs with
  | nil => rfl
  | cons c cs ih =>
    rw [List.mem_cons, not_or] at hopen hclose
    rw [escape, if_neg (Ne.symm hopen.1), if_neg (Ne.symm hclose.1), ih hopen.2 hclose.2]

theorem escape_eq_nil_iff {cs : List Char} : escape cs = [] ↔ cs = [] := by
  cases cs with
  | nil => simp [escape]
  | cons c cs =>
    rw [escape]
    split_ifs <;> simp [openCode, closeCode]

/-- Escaping a text without blanks leaves neither blanks nor brackets. -/
theorem isPlain_of_mem_escape {cs : List Char} (h : ∀ c ∈ cs, Text.isBlank c = false) :
    ∀ c ∈ escape cs, isPlain c = true := by
  induction cs with
  | nil => simp [escape]
  | cons c cs ih =>
    rw [List.forall_mem_cons] at h
    rw [escape]
    split_ifs with hopen hclose
    · rw [List.forall_mem_append]
      exact ⟨by decide, ih h.2⟩
    · rw [List.forall_mem_append]
      exact ⟨by decide, ih h.2⟩
    · rw [List.forall_mem_cons]
      exact ⟨isPlain_iff.mpr ⟨h.1, hopen, hclose⟩, ih h.2⟩

theorem mem_decode {side bracket : Char} {cs : List Char} {c : Char} (h : c ∈ decode side bracket cs) :
    c = bracket ∨ c ∈ cs := by
  fun_induction decode side bracket cs with
  | case1 cs ih =>
    rcases List.mem_cons.mp h with rfl | h
    · exact Or.inl rfl
    · exact (ih h).imp_right fun hc => by simp [hc]
  | case2 s cs hs ih =>
    rcases List.mem_cons.mp h with rfl | h
    · exact Or.inr (by simp)
    · exact (ih h).imp_right (List.mem_cons_of_mem _)
  | case3 c' cs _ ih =>
    rcases List.mem_cons.mp h with rfl | h
    · exact Or.inr (by simp)
    · exact (ih h).imp_right (List.mem_cons_of_mem _)
  | case4 => exact absurd h (by simp)

/-- Unescaping adds brackets only. -/
theorem isBlank_of_mem_unescape {cs : List Char} (h : ∀ c ∈ cs, Text.isBlank c = false) :
    ∀ c ∈ unescape cs, Text.isBlank c = false := by
  intro c hc
  rcases mem_decode hc with rfl | hc
  · decide
  · rcases mem_decode hc with rfl | hc
    · decide
    · exact h c hc

/-! ### Words -/

/-- The form in which bracket notation holds a word. -/
def escapedWord (w : String) : String := String.ofList (escape w.toList)

/-- A word that can stand at a leaf in bracket notation. -/
structure IsWord (w : String) : Prop where
  ne_empty : w ≠ ""
  no_blank : ∀ c ∈ w.toList, Text.isBlank c = false

instance (w : String) : Decidable (IsWord w) :=
  decidable_of_iff (w ≠ "" ∧ ∀ c ∈ w.toList, Text.isBlank c = false)
    ⟨fun h => ⟨h.1, h.2⟩, fun h => ⟨h.1, h.2⟩⟩

/-- A word that comes back from its form in bracket notation. -/
def IsRecoverable (w : String) : Prop := unescapeWord (escapedWord w) = w

instance (w : String) : Decidable (IsRecoverable w) := inferInstanceAs (Decidable (_ = _))

/-- Not every word comes back: a code is read as the bracket that it stands for. -/
example : IsRecoverable "f(x)#" ∧ ¬IsRecoverable "#LRB#" := by decide

/-- What stands in bracket notation for a word is a token. -/
theorem IsWord.exists_escape {w : String} (h : IsWord w) :
    ∃ c cs, escape w.toList = c :: cs ∧ isPlain c = true ∧ ∀ d ∈ cs, isPlain d = true := by
  obtain ⟨c, cs, hcs⟩ : ∃ c cs, escape w.toList = c :: cs := by
    refine List.exists_cons_of_ne_nil fun hnil => h.ne_empty ?_
    exact String.toList_inj.mp (by simpa using escape_eq_nil_iff.mp hnil)
  have hplain := isPlain_of_mem_escape h.no_blank
  rw [hcs, List.forall_mem_cons] at hplain
  exact ⟨c, cs, hcs, hplain⟩

/-- A token is the form of itself. -/
theorem escapedWord_eq_self {w : String} (h : ∀ c ∈ w.toList, isPlain c = true) : escapedWord w = w := by
  have hopen : '(' ∉ w.toList := fun hc => (isPlain_iff.mp (h _ hc)).2.1 rfl
  have hclose : ')' ∉ w.toList := fun hc => (isPlain_iff.mp (h _ hc)).2.2 rfl
  rw [escapedWord, escape_eq_self hopen hclose, String.ofList_toList]

/-- A token is the form of the word that is read from it. -/
theorem escapedWord_unescapeWord {w : String} (h : ∀ c ∈ w.toList, isPlain c = true) :
    escapedWord (unescapeWord w) = w := by
  rw [escapedWord, unescapeWord, String.toList_ofList, escape_unescape, ← escapedWord,
    escapedWord_eq_self h]

/-- A word that was read can be written. -/
theorem isWord_unescapeWord {w : String} (hw : w ≠ "") (h : ∀ c ∈ w.toList, isPlain c = true) :
    IsWord (unescapeWord w) where
  ne_empty := by
    intro hempty
    have hback := escapedWord_unescapeWord h
    rw [hempty] at hback
    exact hw (hback.symm.trans rfl)
  no_blank := by
    rw [unescapeWord, String.toList_ofList]
    exact isBlank_of_mem_unescape fun c hc => (isPlain_iff.mp (h c hc)).1

theorem isRecoverable_unescapeWord {w : String} (h : ∀ c ∈ w.toList, isPlain c = true) :
    IsRecoverable (unescapeWord w) := by
  rw [IsRecoverable, escapedWord_unescapeWord h]

end Constituency.Bracket
