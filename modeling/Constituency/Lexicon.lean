import Constituency.OrderedMap
import Constituency.Probability
import Constituency.Score
import Constituency.Tree.Traversal

/-!
# Lexicons

A lexicon counts words with their tags and estimates how probable a word is under a tag: the share
of the tag among the occurrences of the word, over the share of the tag among all occurrences,
times the probability of the word. A word seen less often than a threshold counts as seen once
more, with the tags that new words have had; an unknown word has those only.
-/
namespace Constituency

/-- Counts of words and tags; the tags of word types are those of the first occurrences. -/
structure Lexicon where
  /-- Words that occur less often are smoothed. -/
  rareThreshold : Int
  tokens : Nat
  types : Nat
  tags : Tally String
  words : Tally Word
  typeTags : Tally String
  wordTags : OrderedMap Word (Tally String)

namespace Lexicon

def empty (rareThreshold : Int) : Lexicon :=
  ⟨rareThreshold, 0, 0, .empty, .empty, .empty, .empty⟩

/-- Whether a word has been counted. -/
def known (x : Lexicon) (w : Word) : Bool := x.words.contains w

def add (x : Lexicon) (w : Word) (tag : String) : Lexicon where
  rareThreshold := x.rareThreshold
  tokens := x.tokens + 1
  types := if x.known w then x.types else x.types + 1
  tags := x.tags.bump tag
  words := x.words.bump w
  typeTags := if x.known w then x.typeTags else x.typeTags.bump tag
  wordTags := x.wordTags.alter w fun t => (t.getD .empty).bump tag

def addAll (x : Lexicon) (pairs : List (Word × String)) : Lexicon :=
  pairs.foldl (fun y p => y.add p.1 p.2) x

/-- The lexicon of the preterminals of trees. -/
def ofTrees (rareThreshold : Int) (ts : List Tree) : Lexicon :=
  (empty rareThreshold).addAll (ts.flatMap Tree.tagged)

/-- How often a word was counted with a tag. -/
def pairCount (x : Lexicon) (w : Word) (tag : String) : Nat :=
  ((x.wordTags.get? w).getD .empty).count tag

/-- Whether a word is smoothed. -/
def isRare (x : Lexicon) (w : Word) : Bool := (x.words.count w : Int) < x.rareThreshold

section Estimate

variable (ρ : Type) [Probability ρ]

/-- How often a word counts as seen. -/
def wordWeight (x : Lexicon) (w : Word) : Nat :=
  x.words.count w + if x.isRare w then 1 else 0

/-- How often a word counts as seen with a tag. -/
def pairWeight (x : Lexicon) (w : Word) (tag : String) : ρ :=
  let seen : ρ := Probability.ofNat (x.pairCount w tag)
  if x.isRare w then
    Probability.add seen
      (Probability.share ρ (x.typeTags.count tag) x.types)
  else seen

/-- The probability of a tag for a word; there is none for a word that counts as never seen. -/
def tagGivenWord? (x : Lexicon) (w : Word) (tag : String) : Option ρ :=
  if x.wordWeight w = 0 then none
  else some (Probability.div (x.pairWeight ρ w tag) (Probability.ofNat (x.wordWeight w)))

/-- The probability of a tag. -/
def tagShare (x : Lexicon) (tag : String) : ρ := Probability.share ρ (x.tags.count tag) x.tokens

/-- The probability of a word, with one more occurrence for every known word. -/
def wordShare (x : Lexicon) (w : Word) : ρ :=
  Probability.share ρ (1 + x.wordWeight w) (x.tokens + x.types)

/-- What a word and a tag have in common. -/
inductive Estimate where
  /-- The tag cannot produce the word. -/
  | impossible
  /-- The probability of the word under the tag. -/
  | likelihood (p : ρ)

/-- The estimate for a word and a tag; there is none for a word that counts as never seen. -/
def estimate? (x : Lexicon) (w : Word) (tag : String) : Option (Estimate ρ) :=
  if x.tokens = 0 ∨ x.tags.count tag = 0 then some .impossible
  else
    (x.tagGivenWord? ρ w tag).map fun p =>
      if Probability.isNonpos p then .impossible
      else .likelihood (Probability.mul (Probability.div p (x.tagShare ρ tag)) (x.wordShare ρ w))

end Estimate

/-- The score of a word under a tag: the logarithm of its probability. -/
def score? {σ ρ : Type} [Score σ] [Probability ρ] [LogScale σ ρ] (x : Lexicon) (w : Word)
    (tag : String) : Option σ :=
  (x.estimate? ρ w tag).map fun
    | .impossible => Score.bottom
    | .likelihood p => LogScale.log p

/-- The tags, in order of first occurrence. -/
def tagList (x : Lexicon) : List String := x.tags.keys

def size (x : Lexicon) : Nat := x.words.size

end Lexicon

end Constituency
