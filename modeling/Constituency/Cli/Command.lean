import Constituency.Cli.Parsing
import Constituency.Cli.Scoring
import Constituency.Cli.Transformation

/-!
# Commands

The first argument names the command to run; without one, the commands are listed.
-/
namespace Constituency.Cli

/-- A command: its name, what it does, and what it runs on the arguments behind the name. -/
structure Command where
  name : String
  purpose : String
  action : List String → Session Unit

namespace Command

def all : List Command := [
  ⟨"parser", "Train a Markovized PCFG on a treebank and parse sentences.", Parsing.run⟩,
  ⟨"grammar", "Read off a grammar and lexicon from a treebank.", Induction.run⟩,
  ⟨"treetransforms", "Annotate and binarize trees, or undo this.", Transformation.run⟩,
  ⟨"eval", "Evaluate parse trees; similar to EVALB.", Scoring.run⟩]

/-- The name under which the commands are called. -/
def program : String := "markovpcfg"

def version : String := "0.1.0"

/-- List the commands and end. -/
def list : Session Unit := do
  Session.report ("Usage: " ++ program ++ " <command> [arguments]\n")
  Session.report "Command is one of:"
  all.forM fun c => Session.print ("   " ++ Text.padRight 15 c.name ++ "  " ++ c.purpose)
  Session.report ("for additional instructions issue: " ++ program ++ " <command> --help")
  throw (.exit 2)

/-- Run the command that the arguments name. -/
def run : List String → Session Unit
  | ["-v"] | ["--version"] => Session.print version
  | [] => list
  | name :: args =>
      match all.find? (·.name == name) with
      | some c => c.action args
      | none => list

/-- Run a command on a workspace: how it ends, and what it leaves behind. -/
def execute (args : List String) (w : Workspace) : Ending × Workspace :=
  match (run args).run.run w with
  | (.ok _, w) => (.exit 0, w)
  | (.error ending, w) => (ending, w)

end Command

end Constituency.Cli
