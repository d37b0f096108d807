import Constituency.Proofs.Chart.Finished
import Constituency.Tree.Basic

/-!
# Derivations

A derivation of a symbol over the words between two places has tags over the words, for which a lexicon
has a score, and applies rules of a grammar above them; its score is the sum of all of these scores.
Unary rules can be applied without a limit. The tree of a derivation has a node for every tag and rule.
-/
namespace Constituency

variable {σ : Type} [Score σ]

/-- A derivation of a symbol over the words between two places. -/
inductive Derivation (g : Grammar σ) (scores : String → String → Option σ) (sentence : List String) :
    Symbol → Nat → Nat → Type where
  | word {i x : Nat} (w tag : String) (s : σ) (hw : sentence[i]? = some w)
      (htag : g.vocabulary.labels[x]? = some tag) (hs : scores w tag = some s)
      (hfinite : Score.isFinite s = true) : Derivation g scores sentence x i (i + 1)
  | unary {i j : Nat} (r : UnaryRule σ) (hr : r ∈ g.unary)
      (below : Derivation g scores sentence r.child i j) : Derivation g scores sentence r.parent i j
  | binary {i k j : Nat} (r : BinaryRule σ) (hr : r ∈ g.binary)
      (left : Derivation g scores sentence r.left i k)
      (right : Derivation g scores sentence r.right k j) : Derivation g scores sentence r.parent i j

/-- The label of a symbol. -/
def Grammar.label (g : Grammar σ) (x : Symbol) : String := (g.vocabulary.label? x).getD ""

namespace Derivation

variable {g : Grammar σ} {scores : String → String → Option σ} {sentence : List String}

/-- The sum of the scores of all tags and rules. -/
def score {x : Symbol} {i j : Nat} : Derivation g scores sentence x i j → σ
  | word _ _ s .. => s
  | unary r _ below => Score.add r.score below.score
  | binary r _ left right => Score.add (Score.add r.score left.score) right.score

/-- The tree of a derivation. -/
def tree {x : Symbol} {i j : Nat} : Derivation g scores sentence x i j → Tree
  | word w tag .. => .node tag [.ofWord w]
  | unary r _ below => .node (g.label r.parent) [below.tree]
  | binary r _ left right => .node (g.label r.parent) [left.tree, right.tree]

/-- Whether the topmost rule is a binary one. -/
def isBinary {x : Symbol} {i j : Nat} : Derivation g scores sentence x i j → Bool
  | binary .. => true
  | _ => false

/-- Whether all rules have the best score among those with the same symbols. -/
def UsesBest [OrderedScore σ] {x : Symbol} {i j : Nat} : Derivation g scores sentence x i j → Prop
  | word .. => True
  | unary r _ below =>
      (∀ q ∈ g.unary, q.symbols = r.symbols → q.score ≤ r.score) ∧ below.UsesBest
  | binary r _ left right =>
      (∀ q ∈ g.binary, q.symbols = r.symbols → q.score ≤ r.score) ∧ left.UsesBest ∧ right.UsesBest

omit [Score σ] in
theorem label_of_getElem? {x : Nat} {tag : String} (h : g.vocabulary.labels[x]? = some tag) :
    g.label x = tag := by
  simp [Grammar.label, Vocabulary.label?, h]

/-- A derivation is over some words of the sentence. -/
theorem lt_and_le {x : Symbol} {i j : Nat} (d : Derivation g scores sentence x i j) :
    i < j ∧ j ≤ sentence.length := by
  induction d with
  | word w tag s hw htag hs hfinite =>
    exact ⟨Nat.lt_succ_self _, (List.getElem?_eq_some_iff.mp hw).1⟩
  | unary r hr below ih => exact ih
  | binary r hr left right ihl ihr => exact ⟨ihl.1.trans ihr.1, ihr.2⟩

theorem symbol_range (hg : g.IsProper) {x : Symbol} {i j : Nat}
    (d : Derivation g scores sentence x i j) : 0 ≤ x ∧ x < g.numSymbols := by
  cases d with
  | word w tag s hw htag hs hfinite =>
    have hx := (Array.getElem?_eq_some_iff.mp htag).1
    exact ⟨Int.natCast_nonneg _, Int.ofNat_lt.mpr hx⟩
  | unary r hr below => exact (hg.unary r hr).1
  | binary r hr left right => exact (hg.binary r hr).1

theorem label?_tree {x : Symbol} {i j : Nat} (d : Derivation g scores sentence x i j) :
    d.tree.label? = some (g.label x) := by
  cases d with
  | word w tag s hw htag hs hfinite => rw [label_of_getElem? htag, tree, Tree.label?]
  | unary r hr below => rfl
  | binary r hr left right => rfl

omit [Score σ] in
theorem drop_take_append {α : Type} (xs : List α) {i k j : Nat} (hik : i ≤ k) (hkj : k ≤ j) :
    (xs.take k).drop i ++ (xs.take j).drop k = (xs.take j).drop i := by
  obtain ⟨a, rfl⟩ := Nat.exists_eq_add_of_le hik
  obtain ⟨b, rfl⟩ := Nat.exists_eq_add_of_le hkj
  have hrest : i + a + b - i = a + b := by omega
  rw [List.drop_take, List.drop_take, List.drop_take, hrest, Nat.add_sub_cancel_left,
    Nat.add_sub_cancel_left, ← List.drop_drop, ← List.take_add]

/-- The leaves of a derivation are the words between its places. -/
theorem leaves_tree {x : Symbol} {i j : Nat} (d : Derivation g scores sentence x i j) :
    d.tree.leaves = ((sentence.take j).drop i).map some := by
  induction d with
  | @word i x w tag s hw htag hs hfinite =>
    obtain ⟨hi, rfl⟩ := List.getElem?_eq_some_iff.mp hw
    have hone : (sentence.take (i + 1)).drop i = [sentence[i]] := by
      rw [List.drop_take, Nat.add_sub_cancel_left, List.drop_eq_getElem_cons hi]
      rfl
    rw [hone]
    simp [tree]
  | unary r hr below ih => simpa [tree] using ih
  | binary r hr left right ihl ihr =>
    have hleft := left.lt_and_le
    have hright := right.lt_and_le
    rw [tree, Tree.leaves_node]
    simp only [List.flatMap_cons, List.flatMap_nil, List.append_nil, ihl, ihr, ← List.map_append]
    rw [drop_take_append sentence hleft.1.le hright.1.le]

/-- Rules that lead down to the symbol of a derivation go on with it upwards. -/
theorem exists_over {rs : List (UnaryRule σ)} {x y : Symbol} {i j : Nat}
    (hm : ∀ r ∈ rs, r ∈ g.unary) (hl : Leads x rs y) (d : Derivation g scores sentence y i j) :
    ∃ e : Derivation g scores sentence x i j,
      e.tree = rs.foldr (fun r t => .node (g.label r.parent) [t]) d.tree := by
  induction rs generalizing x with
  | nil =>
    obtain rfl := leads_nil.mp hl
    exact ⟨d, rfl⟩
  | cons r rs ih =>
    rw [List.forall_mem_cons] at hm
    obtain ⟨rfl, hl⟩ := hl
    obtain ⟨e, htree⟩ := ih hm.2 hl
    exact ⟨unary r hm.1 e, by rw [tree, htree, List.foldr_cons]⟩

section Laws

variable [LawfulScore σ]

/-- A chain of rules over a derivation. -/
theorem exists_chain {rs : List (UnaryRule σ)} {x y : Symbol} {i j : Nat}
    (hm : ∀ r ∈ rs, r ∈ g.unary) (hl : Leads x rs y)
    (hbest : ∀ r ∈ rs, ∀ q ∈ g.unary, q.symbols = r.symbols → q.score ≤ r.score)
    (d : Derivation g scores sentence y i j) (hd : d.UsesBest) :
    ∃ e : Derivation g scores sentence x i j, e.score = total rs + d.score ∧ e.UsesBest ∧
      e.tree = rs.foldr (fun r t => .node (g.label r.parent) [t]) d.tree := by
  induction rs generalizing x with
  | nil =>
    obtain rfl := leads_nil.mp hl
    exact ⟨d, by simp, hd, rfl⟩
  | cons r rs ih =>
    obtain ⟨rfl, hl⟩ := hl
    obtain ⟨e, hscore, he, htree⟩ := ih (fun q hq => hm q (by simp [hq])) hl
      fun q hq => hbest q (by simp [hq])
    refine ⟨unary r (hm r (by simp)) e, ?_, ?_, ?_⟩
    · rw [score, hscore, total_cons, Score.add_eq, add_assoc]
    · rw [UsesBest]
      exact ⟨hbest r (by simp), he⟩
    · rw [tree, htree, List.foldr_cons]

end Laws

end Derivation

namespace Chart

/-- A derivation of the tiny grammar: every word is below a unary rule, and the binary rule at the top. -/
def tinyDerivation : Derivation tinyGrammar tinyScores ["b", "b"] 0 0 2 :=
  let part (i : Nat) (hw : ["b", "b"][i]? = some "b") :
      Derivation tinyGrammar tinyScores ["b", "b"] 1 i (i + 1) :=
    .unary ⟨1, 2, .value (-2)⟩ (by decide)
      (.word "b" "B" (.value 0) hw (x := 2) rfl (by simp [tinyScores]) rfl)
  .binary ⟨0, 1, 1, .value (-1)⟩ (by decide) (part 0 rfl) (part 1 rfl)

end Chart

end Constituency
