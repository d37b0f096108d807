/-!
# File name patterns

In a pattern `*` stands for any characters, `?` for one, and brackets for one out of a set of
characters and ranges, or out of its complement when the set begins with `!`. A range that ends before
it starts holds nothing and is left out first, so that a `!` behind it comes to stand at the beginning.
A bracket that is not closed stands for itself. Names that begin with a dot are matched only by patterns
that do.

What it means to match is said by `matchesParts`, which tries every number of characters for each `*`.
The search itself (`suffixMatches`) goes through the parts of a pattern once and keeps which ends of
the name are matched; `suffixMatches_head` says that it decides the same.
-/
namespace Constituency.Text

/-- One item of a set: a character, or all characters from one to another. -/
inductive SetItem where
  | only (c : Char)
  | span (first last : Char)
  deriving Repr, DecidableEq

namespace SetItem

/-- Whether a character belongs to an item. -/
def covers (c : Char) : SetItem → Bool
  | only d => c == d
  | span first last => first ≤ c && c ≤ last

/-- Whether an item is a range that ends before it starts. -/
def isEmpty : SetItem → Bool
  | only _ => false
  | span first last => last < first

/-- No character belongs to a range that ends before it starts. -/
theorem covers_of_isEmpty (c : Char) (item : SetItem) (h : item.isEmpty = true) :
    item.covers c = false := by
  cases item with
  | only d => simp [isEmpty] at h
  | span first last =>
      simp only [isEmpty, decide_eq_true_eq] at h
      simp only [covers, Bool.and_eq_false_imp, decide_eq_true_eq, decide_eq_false_iff_not]
      exact fun hc hl => absurd (Char.le_trans hc hl) (Char.not_le.2 h)

/-- The items of a set; a hyphen between two characters makes a range of them. -/
def ofChars : List Char → List SetItem
  | a :: '-' :: b :: cs => span a b :: ofChars cs
  | a :: cs => only a :: ofChars cs
  | [] => []

end SetItem

/-- One part of a pattern. -/
inductive Wildcard where
  | char (c : Char)
  | any
  | many
  | oneOf (negated : Bool) (items : List SetItem)
  deriving Repr, DecidableEq

/-- The part of a pattern that a set stands for. No range starts at a `!` in front of the set; where
one starts at a `!` that has come to stand there, its hyphen and its last character stand for
themselves. -/
def Wildcard.ofSet (set : List Char) : Wildcard :=
  let items : List SetItem := match set with
    | '!' :: cs => .only '!' :: SetItem.ofChars cs
    | cs => SetItem.ofChars cs
  match items.filter fun item => !item.isEmpty with
  | .only '!' :: rest => .oneOf true rest
  | .span '!' last :: rest => .oneOf true (.only '-' :: .only last :: rest)
  | rest => .oneOf false rest

/-- The characters of a set and the pattern behind it; a closing bracket in front belongs to the set. -/
def splitSet (cs : List Char) : Option (List Char × List Char) :=
  let lead : List Char × List Char := match cs with
    | '!' :: ']' :: r => (['!', ']'], r)
    | '!' :: r => (['!'], r)
    | ']' :: r => ([']'], r)
    | r => ([], r)
  match lead.2.dropWhile (· != ']') with
  | _ :: rest => some (lead.1 ++ lead.2.takeWhile (· != ']'), rest)
  | [] => none

/-- The parts of a pattern; `n` bounds their number. -/
def wildcardsUpTo : Nat → List Char → List Wildcard
  | 0, _ => []
  | _ + 1, [] => []
  | n + 1, '*' :: cs => .many :: wildcardsUpTo n cs
  | n + 1, '?' :: cs => .any :: wildcardsUpTo n cs
  | n + 1, '[' :: cs =>
      match splitSet cs with
      | some (set, rest) => .ofSet set :: wildcardsUpTo n rest
      | none => .char '[' :: wildcardsUpTo n cs
  | n + 1, c :: cs => .char c :: wildcardsUpTo n cs

/-- The parts of a pattern, of which there are at most as many as characters. -/
def wildcards (pattern : List Char) : List Wildcard := wildcardsUpTo pattern.length pattern

/-- Whether a part of a pattern that stands for one character matches it. -/
def Wildcard.hits (c : Char) : Wildcard → Bool
  | char d => c == d
  | any => true
  | many => false
  | oneOf negated items => items.any (·.covers c) != negated

/-- Whether the parts of a pattern match a name. -/
def matchesParts : List Wildcard → List Char → Bool
  | [], [] => true
  | [], _ :: _ => false
  | .many :: ws, [] => matchesParts ws []
  | .many :: ws, c :: cs => matchesParts ws (c :: cs) || matchesParts (.many :: ws) cs
  | _ :: _, [] => false
  | w :: ws, c :: cs => w.hits c && matchesParts ws cs
termination_by ws cs => ws.length + cs.length

/-- Which of the ends of a name, the longest first and the empty one last, are matched by a pattern that
has one more part in front, from which of them are matched without it. -/
def extendMatches (w : Wildcard) : List Char → List Bool → List Bool
  | c :: cs, b :: bs =>
      let shorter := extendMatches w cs bs
      (if w = .many then b || shorter.headD false else w.hits c && bs.headD false) :: shorter
  | _, bs => [w = .many && bs.headD false]

/-- Which of the ends of a name, the longest first, the parts of a pattern match. -/
def suffixMatches : List Wildcard → List Char → List Bool
  | [], cs => cs.map (fun _ => false) ++ [true]
  | w :: ws, cs => extendMatches w cs (suffixMatches ws cs)

theorem suffixMatches_nil (ws : List Wildcard) : suffixMatches ws [] = [matchesParts ws []] := by
  induction ws with
  | nil => simp [suffixMatches, matchesParts]
  | cons w ws ih => cases w <;> simp [suffixMatches, extendMatches, matchesParts, ih]

/-- The first place belongs to the whole name, the others to what follows its first character. -/
theorem suffixMatches_cons (ws : List Wildcard) (c : Char) (cs : List Char) :
    suffixMatches ws (c :: cs) = matchesParts ws (c :: cs) :: suffixMatches ws cs := by
  induction ws generalizing c cs with
  | nil => simp [suffixMatches, matchesParts]
  | cons w ws ih =>
      have without (ds : List Char) : (suffixMatches ws ds).headD false = matchesParts ws ds := by
        cases ds <;> simp [suffixMatches_nil, ih]
      induction cs generalizing c with
      | nil =>
          simp only [suffixMatches, ih, extendMatches, without]
          cases w <;> simp [matchesParts]
      | cons d ds ihs =>
          have h := ihs d
          rw [suffixMatches, suffixMatches] at h
          rw [suffixMatches, suffixMatches, ih, extendMatches, h, without]
          cases w <;> simp [matchesParts]

/-- Whether the whole name is matched. -/
theorem suffixMatches_head (ws : List Wildcard) (cs : List Char) :
    (suffixMatches ws cs).headD false = matchesParts ws cs := by
  cases cs <;> simp [suffixMatches_nil, suffixMatches_cons]

/-- Whether a name is a pattern, and not just a name. -/
def isPattern (s : String) : Bool := s.toList.any fun c => c == '*' || c == '?' || c == '['

def matchesName (pattern name : String) : Bool :=
  (name.toList.head? != some '.' || pattern.toList.head? == some '.') &&
    (suffixMatches (wildcards pattern.toList) name.toList).headD false

end Constituency.Text
