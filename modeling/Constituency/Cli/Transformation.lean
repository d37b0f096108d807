import Constituency.Cli.Options
import Constituency.Cli.Session
import Constituency.Cli.Usage

/-!
# The command that transforms treebanks

Every tree of a treebank is binarized, or what was binarized is restored. Trees are written as
they are read, so an error in the treebank leaves the trees in front of it.
-/
namespace Constituency.Cli.Transformation

def table : OptionTable where
  short := ['h']
  long := [⟨"help", false⟩, ⟨"annotate", false⟩, ⟨"unannotate", false⟩, ⟨"fmt", true⟩,
    ⟨"enc", true⟩, ⟨"functions", true⟩, ⟨"ensureroot", true⟩]

/-- Sort the arguments of the command, of which at most two are operands. -/
def arguments (args : List String) : Session (OrderedMap String String × List String) :=
  match table.read args with
  | .error e => Session.refuse e.message Usage.transformationHelp
  | .ok a =>
      if 2 < a.operands.length then
        Session.refuse "expected 0, 1, or 2 positional arguments" Usage.transformationHelp
      else pure (OrderedMap.ofList a.options, a.operands)

def writeAll (path : String) (e : Text.Encoding) (format : Tree.Format) :
    List Tree → Session Unit
  | [] => pure ()
  | t :: ts => do
      Session.append path e (← Session.need .writing (t.write format))
      writeAll path e format ts

def run (args : List String) : Session Unit := do
  let (options, operands) ← arguments args
  if options.contains "-h" || options.contains "--help" then Session.print Usage.transformationHelp
  else if options.contains "--annotate" == options.contains "--unannotate" then
    Session.refuse "specify exactly one of --annotate, --unannotate" Usage.transformationHelp
  else
    let name := (options.get? "--fmt").getD "bracket"
    match Tree.Format.ofName? name with
    | none => do
        Session.report ("error: unrecognized output format: " ++ Text.quoted name ++
          "\navailable formats: " ++ " ".intercalate Tree.Format.names)
        throw (.exit 2)
    | some format => do
        let encodingName := (options.get? "--enc").getD "utf8"
        let transform := if options.contains "--annotate" then Tree.annotate else Tree.unannotate
        let corpus ← Session.findCorpus (operands.getD 0 Session.standard) encodingName
          (options.get? "--ensureroot") (Session.functionTags options none)
        let target := operands.getD 1 Session.standard
        let e ← Session.openOutput target encodingName
        let trees ← Session.readCorpus corpus
        writeAll target e format (trees.items.map transform)
        let all ← Session.need .treebank trees.all
        Session.report (operands.getD 0 "stdin" ++ ": transformed " ++ toString all.length ++ " trees")

end Constituency.Cli.Transformation
