import Constituency.Cli.Options
import Constituency.Cli.Session
import Constituency.Cli.Usage
import Constituency.Eval.Evaluator

/-!
# The command that evaluates parses

The trees of a treebank are compared with the gold trees of the same numbers. A line for each
sentence may be printed; a summary is.
-/
namespace Constituency.Cli.Scoring

def table : OptionTable where
  short := ['h']
  long := [⟨"help", false⟩, ⟨"verbose", false⟩, ⟨"goldenc", true⟩, ⟨"parsesenc", true⟩,
    ⟨"functions", true⟩, ⟨"root", true⟩]

/-- Compare candidate trees with gold trees, each named by its number. -/
def compareAll (v : Evaluator) (gold : List Tree) : Evaluation → List (Nat × Tree) → Session Evaluation
  | e, [] => pure e
  | e, (n, candidate) :: rest =>
      match gold[n - 1]? with
      | none => Session.fail (.noGoldTree n)
      | some g => do
          let (e, entry) := v.enter e (.number n) g candidate
          let entry ← Session.need .ofEntry entry
          if let some line := entry.line then Session.print line
          compareAll v gold e rest

def compare (options : OrderedMap String String) (goldPath candidatePath : String) :
    Session Unit := do
  let functions := Session.functionTags options (some "remove")
  let root := (options.get? "--root").getD "ROOT"
  let goldCorpus ← Session.findCorpus goldPath ((options.get? "--goldenc").getD "utf8") (some root)
    functions
  let candidateCorpus ← Session.findCorpus candidatePath
    ((options.get? "--parsesenc").getD "utf8") (some root) functions
  let gold ← Session.allTrees goldCorpus
  let candidates ← Session.allTrees candidateCorpus
  if gold.isEmpty then Session.fail .noGoldTrees
  if candidates.isEmpty then Session.fail .noCandidateTrees
  let v : Evaluator :=
    { skip := [root], keyWidth := (toString candidates.length).length
      verbose := options.contains "--verbose" }
  if v.verbose then Session.print ("\n".intercalate (Evaluation.header v.keyWidth))
  let e ← compareAll v gold .empty (Treebank.numbered candidates)
  Session.print (← Session.need .tagging e.summary)

def run (args : List String) : Session Unit :=
  match table.read args with
  | .error e => Session.refuse e.message Usage.evaluation
  | .ok a =>
      let options := OrderedMap.ofList a.options
      if options.contains "-h" || options.contains "--help" then Session.print Usage.evaluationHelp
      else
        match a.operands with
        | [gold, candidates] => compare options gold candidates
        | _ => Session.refuse "Wrong number of arguments." Usage.evaluation

end Constituency.Cli.Scoring
