import Constituency.Parser.Basic
import Constituency.Proofs.Chart.Grounded
import Constituency.Proofs.Grammar.Induction
import Constituency.Proofs.Lexicon

/-!
# Trained parsers

What a parser has learned: every node of its binarized trees has a production, the rules of its grammar are
these productions, and its lexicon has counted the words of the trees with their tags
(`isTrained_of_train`). So the lexicon knows a tag whenever it knows any word
(`IsTrained.exists_tag`).
-/
namespace Constituency.Parser

variable {σ ρ : Type} [Score σ] [Probability ρ] [LogScale σ ρ]

/-- The binarized forms of the trees that are short enough. -/
def annotated (settings : Settings) (trees : List Tree) : List Tree :=
  (trees.filter (isShort settings)).map Tree.annotate

/-- What a lexicon says of a word and a tag. -/
def scores (p : Parser σ) (w tag : String) : Option σ := p.lexicon.score? (some w) tag

/-- A parser that was trained on trees. -/
structure IsTrained (settings : Settings) (trees : List Tree) (p : Parser σ) : Prop where
  settings_eq : p.settings = settings
  hasHistories : ∀ t ∈ trees, isShort settings t = true → t.hasHistories = true
  countable : ∀ t ∈ annotated settings trees, ∀ u ∈ t.nodes, u.production?.isSome
  grammar : IsInduced logShare (Productions.productionsOf (annotated settings trees)) p.grammar
  lexicon : p.lexicon.Counted settings.rareThreshold ((annotated settings trees).flatMap Tree.tagged)
  closure : Closure.ofRules? p.grammar.numSymbols p.grammar.unary = .ok p.closure

theorem mapM_annotate? (ts : List Tree) :
    ts.mapM Tree.annotate? =
      if ∀ t ∈ ts, t.hasHistories = true then some (ts.map Tree.annotate) else none := by
  induction ts with
  | nil => simp
  | cons t ts ih =>
    rw [List.mapM_cons, ih, Tree.annotate?]
    simp only [List.forall_mem_cons]
    by_cases ht : t.hasHistories = true
    · by_cases hts : ∀ u ∈ ts, u.hasHistories = true
      · rw [if_pos ht, if_pos hts, if_pos ⟨ht, hts⟩]
        rfl
      · rw [if_pos ht, if_neg hts, if_neg fun hall => hts hall.2]
        rfl
    · have hno : ¬ (t.hasHistories = true ∧ ∀ u ∈ ts, u.hasHistories = true) :=
        fun hall => ht hall.1
      rw [if_neg ht, if_neg hno]
      rfl

/-- Training when every intermediate node has a label. -/
theorem train_eq {settings : Settings} {trees : List Tree}
    (h : ∀ t ∈ trees.filter (isShort settings), t.hasHistories = true) :
    (train settings trees : Except (TrainingError σ) (Parser σ)) =
      ((Grammar.induce .empty (annotated settings trees)).mapError .grammar).bind fun g =>
        ((Closure.ofRules? g.numSymbols g.unary).mapError .closure).map fun c =>
          ⟨settings, (trees.filter (isShort settings)).length, g,
            Lexicon.ofTrees settings.rareThreshold (annotated settings trees), c⟩ := by
  unfold train
  dsimp only
  rw [mapM_annotate?, if_pos h]
  rfl

theorem train_of_not_hasHistories {settings : Settings} {trees : List Tree}
    (h : ¬ ∀ t ∈ trees.filter (isShort settings), t.hasHistories = true) :
    (train settings trees : Except (TrainingError σ) (Parser σ)) = .error .gapBeforeSibling := by
  unfold train
  dsimp only
  rw [mapM_annotate?, if_neg h]
  rfl

/-- The parts of a trained parser. -/
theorem exists_of_train {settings : Settings} {trees : List Tree} {p : Parser σ}
    (h : train settings trees = .ok p) :
    (∀ t ∈ trees.filter (isShort settings), t.hasHistories = true) ∧
      ∃ g c, Grammar.induce .empty (annotated settings trees) = .ok g ∧
        Closure.ofRules? g.numSymbols g.unary = .ok c ∧
        p = ⟨settings, (trees.filter (isShort settings)).length, g,
          Lexicon.ofTrees settings.rareThreshold (annotated settings trees), c⟩ := by
  by_cases hall : ∀ t ∈ trees.filter (isShort settings), t.hasHistories = true
  · rw [train_eq hall] at h
    cases hg : (Grammar.induce .empty (annotated settings trees) :
        Except (GrammarError σ) (Grammar σ)) with
    | error e => simp [hg, Except.mapError, Except.bind] at h
    | ok g =>
      rw [hg] at h
      cases hc : Closure.ofRules? g.numSymbols g.unary with
      | error e => simp [hc, Except.mapError, Except.bind, Except.map] at h
      | ok c =>
        simp only [hc, Except.mapError, Except.bind, Except.map, Except.ok.injEq] at h
        exact ⟨hall, g, c, rfl, hc, h.symm⟩
  · rw [train_of_not_hasHistories hall] at h
    exact absurd h (by simp)

/-- What training leads to. -/
theorem isTrained_of_train {settings : Settings} {trees : List Tree} {p : Parser σ}
    (h : train settings trees = .ok p) : p.IsTrained settings trees := by
  obtain ⟨hall, g, c, hg, hc, rfl⟩ := exists_of_train h
  obtain ⟨hcount, hind⟩ := isInduced_of_induce hg
  exact ⟨rfl, fun t ht hshort => hall t (List.mem_filter.mpr ⟨ht, hshort⟩), hcount, hind,
    Lexicon.counted_addAll _ _, hc⟩

/-- The lexicon of a trained parser has counted the words of the trees. -/
theorem lexicon_of_train {settings : Settings} {trees : List Tree} {p : Parser σ}
    (h : train settings trees = .ok p) :
    p.lexicon = Lexicon.ofTrees settings.rareThreshold (annotated settings trees) := by
  obtain ⟨-, g, c, -, -, rfl⟩ := exists_of_train h
  rfl

/-- Training succeeds when every node can be counted and the rules have a closure. -/
theorem exists_train {settings : Settings} {trees : List Tree}
    (hhist : ∀ t ∈ trees.filter (isShort settings), t.hasHistories = true)
    (hcount : ∀ t ∈ annotated settings trees, ∀ u ∈ t.nodes, u.production?.isSome)
    (hclosure : ∀ g : Grammar σ,
      IsInduced logShare (Productions.productionsOf (annotated settings trees)) g →
      ∃ c, Closure.ofRules? g.numSymbols g.unary = .ok c) :
    ∃ p : Parser σ, train settings trees = .ok p := by
  obtain ⟨g, hg⟩ := exists_induce (σ := σ) (v := .empty) hcount
  obtain ⟨c, hc⟩ := hclosure g (isInduced_of_induce hg).2
  exact ⟨_, by rw [train_eq hhist, hg]; simp only [Except.mapError, Except.bind, hc]; rfl⟩

namespace IsTrained

variable {settings : Settings} {trees : List Tree} {p : Parser σ} (h : p.IsTrained settings trees)

include h

/-- A tag that has been counted stands over a word of a tree. -/
theorem tag_mem {tag : String} (hcount : p.lexicon.tags.count tag ≠ 0) :
    Production.tag tag ∈ Productions.productionsOf (annotated settings trees) := by
  rw [h.lexicon.tags_count_ne_zero_iff, List.mem_map] at hcount
  obtain ⟨⟨w, _⟩, hpair, rfl⟩ := hcount
  obtain ⟨t, ht, htagged⟩ := List.mem_flatMap.mp hpair
  exact List.mem_filterMap.mpr ⟨_, List.mem_flatMap.mpr ⟨t, ht, Tree.mem_tagged.mp htagged⟩, rfl⟩

/-- A lexicon that has counted words knows a tag that is a label of the grammar. -/
theorem exists_tag (htokens : p.lexicon.tokens ≠ 0) :
    ∃ tag ∈ p.grammar.vocabulary.labels.toList, p.lexicon.tags.count tag ≠ 0 := by
  rw [h.lexicon.tokens_eq, ← Nat.pos_iff_ne_zero] at htokens
  obtain ⟨⟨w, tag⟩, hpair⟩ := List.length_pos_iff_exists_mem.mp htokens
  have hcount : p.lexicon.tags.count tag ≠ 0 :=
    h.lexicon.tags_count_ne_zero_iff.mpr (List.mem_map.mpr ⟨_, hpair, rfl⟩)
  exact ⟨tag, h.grammar.knows _ (h.tag_mem hcount) tag (by simp [Production.labels]), hcount⟩

end IsTrained

end Constituency.Parser
