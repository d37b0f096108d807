import Constituency.Cli.Options
import Constituency.Cli.Session
import Constituency.Cli.Usage
import Constituency.Grammar.Report
import Constituency.Text.Integer

/-!
# The command that reads a grammar off a treebank

The trees of a treebank are binarized; their rules and their lexicon are written to two files, and
the report describes them.
-/
namespace Constituency.Cli.Induction

def table : OptionTable where
  short := ['h']
  long := [⟨"help", false⟩, ⟨"inputenc", true⟩, ⟨"functions", true⟩, ⟨"root", true⟩,
    ⟨"rarethreshold", true⟩]

/-- What the command is asked to do. -/
inductive Order where
  | help
  | induce (options : OrderedMap String String) (treebank target : String) (threshold : Int)

/-- Why the arguments of the command are refused. -/
inductive OrderError where
  | option (error : OptionError)
  | operands (count : Nat)
  | threshold (error : Text.IntegerError)

/-- A refusal in the form in which the report shows it. -/
def OrderError.display : OrderError → String
  | option e => "GetoptError(" ++ Text.quoted e.message ++ ", " ++ Text.quoted e.name ++ ")"
  | operands n =>
      if n < 2 then
        "ValueError('not enough values to unpack (expected 2, got " ++ toString n ++ ")')"
      else "ValueError('too many values to unpack (expected 2)')"
  | threshold e => "ValueError(" ++ Text.quoted e.message ++ ")"

/-- Read the arguments of the command. -/
def Order.ofArguments (args : List String) : Except OrderError Order := do
  let a ← (table.read args).mapError .option
  let options := OrderedMap.ofList a.options
  if options.contains "-h" || options.contains "--help" then pure .help
  else
    match a.operands with
    | [treebank, target] =>
        match options.get? "--rarethreshold" with
        | none => pure (.induce options treebank target 10)
        | some text => do
            pure (.induce options treebank target (← (Text.readInt text).mapError .threshold))
    | operands => throw (.operands operands.length)

def lexiconReport (x : Lexicon) : String :=
  "lexicon: " ++ toString x.tokens ++ " tokens, " ++ toString x.types ++ " word types, " ++
    toString x.tagList.length ++ " tags"

/-- Write a file anew. -/
def writeFile (path text : String) : Session Unit := do
  Session.createFile path
  Session.append path .utf8 text

/-- Write the grammar and the lexicon of a treebank. -/
def induce (options : OrderedMap String String) (treebank target : String) (threshold : Int) :
    Session Unit := do
  let functions := Session.functionTags options (some "remove")
  let corpus ← Session.findCorpus treebank ((options.get? "--inputenc").getD "utf8")
    (some ((options.get? "--root").getD "ROOT")) functions
  let trees := (← Session.allTrees corpus).map Tree.annotate
  if trees.isEmpty then Session.fail (.noTrees treebank)
  let grammar ← Session.need .production (Grammar.induce .empty trees)
  let lexicon := Lexicon.ofTrees threshold trees
  Session.report (lexiconReport lexicon)
  match lexicon.text? with
  | none => Session.fail .unsortedWords
  | some text =>
      writeFile (target ++ ".rules") grammar.rulesText
      writeFile (target ++ ".lex") text
      Session.report ("wrote grammar to " ++ target ++ ".\x7brules,lex\x7d")
      Session.report grammar.summary

def run (args : List String) : Session Unit :=
  match Order.ofArguments args with
  | .error e => Session.refuse e.display Usage.grammarHelp
  | .ok .help => Session.print Usage.grammarHelp
  | .ok (.induce options treebank target threshold) => induce options treebank target threshold

end Constituency.Cli.Induction
