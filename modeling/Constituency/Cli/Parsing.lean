import Constituency.Cli.Induction

/-!
# The command that parses sentences

A parser is trained on a treebank; then every line of a text with a word in it is parsed as a
sentence, and its tree is written. How much is reported depends on the verbosity of the settings.
-/
namespace Constituency.Cli.Parsing

def table : OptionTable where
  short := ['h']
  long := [⟨"help", false⟩, ⟨"root", true⟩, ⟨"rarethreshold", true⟩, ⟨"maxlen", true⟩,
    ⟨"numproc", true⟩, ⟨"fmt", true⟩, ⟨"encoding", true⟩, ⟨"functions", true⟩, ⟨"verbosity", true⟩]

/-- How important a part of the report is. -/
inductive Importance where
  | warning
  | progress
  | detail
  deriving Repr, DecidableEq

/-- The least verbosity at which a part of the report is shown. -/
def Importance.verbosity : Importance → Int
  | warning => 0
  | progress => 1
  | detail => 2

/-- Report something if the verbosity asks for it. -/
def log (settings : Settings) (importance : Importance) (s : String) : Session Unit :=
  if importance.verbosity ≤ settings.verbosity then Session.report s else pure ()

def reportTraining (p : Parser Float) : Session Unit := do
  let log := log p.settings
  log .detail (Induction.lexiconReport p.lexicon)
  log .detail ("unary closure: " ++ toString p.grammar.unary.length ++ " unary rules, " ++
    toString p.closure.size ++ " closed rules")
  log .progress ("read off grammar from " ++ toString p.trainingSize ++
    " trees; cpu time elapsed: " ++ (← Session.elapsed))
  log .progress p.grammar.summary
  log .progress ("lexicon: " ++ toString p.lexicon.size ++ " words, " ++
    toString p.lexicon.tagList.length ++ " tags; unary closure: " ++ toString p.closure.size ++
    " rules")
  if !p.knowsRoot then
    log .warning ("root label " ++ Text.quoted p.settings.root ++ " does not occur in grammar")

/-- Report on a sentence and write its tree. -/
def writeEntry (settings : Settings) (target : String) (e : Text.Encoding) (x : CorpusEntry Float) :
    Session Unit := do
  match x.derivation with
  | some t => log settings .detail ("viterbi derivation: " ++ t.flatText)
  | none => pure ()
  log settings .detail ("parsing " ++ toString x.number ++ ": " ++ " ".intercalate x.sentence ++
    "\n" ++ x.result.message ++ "; " ++ (← Session.elapsed))
  if x.result.failed then log settings .warning ("no parse for sentence " ++ toString x.number)
  Session.append target e x.output

def writeEntries (settings : Settings) (target : String) (e : Text.Encoding) :
    List (CorpusEntry Float) → Session Unit
  | [] => pure ()
  | x :: xs => do
      writeEntry settings target e x
      writeEntries settings target e xs

/-- The sentences of a text, one on each line that has a word. -/
def sentences (lines : List (List Char)) : List (List String) :=
  (lines.map fun line => (Text.words line).map String.ofList).filter (!·.isEmpty)

/-- Parse the sentences of a file. -/
def parseFile (p : Parser Float) (source target : String) : Session Unit := do
  let settings := p.settings
  let e ← Session.openInput source settings.encoding
  let _ ← Session.openOutput target settings.encoding
  let text := e.readLines (← Session.readFile source)
  let run := p.run (sentences text.items)
  writeEntries settings target e run.entries
  match run.error, text.error with
  | some error, _ => Session.fail (if settings.workers = 1 then .corpus error else .worker error)
  | none, some error => Session.fail (.codec error)
  | none, none =>
      log settings .progress ("average time per sentence: " ++ (← Session.elapsed) ++
        "\nunparsed sentences: " ++ toString run.unparsed ++ "\nfinished")

/-- Train a parser on a treebank and parse the sentences of a file. -/
def trainAndParse (settings : Settings) (treebank : String) (files : List String) :
    Session Unit := do
  let corpus ← Session.findCorpus treebank settings.encoding (some settings.root) settings.functions
  let trees ← Session.allTrees corpus
  if trees.isEmpty then Session.fail (.noTrees treebank)
  let parser ← Session.need .training (Parser.train settings trees)
  reportTraining parser
  parseFile parser (files.getD 0 Session.standard) (files.getD 1 Session.standard)

/-- Why the arguments of the command are refused. -/
inductive OrderError where
  | option (error : OptionError)
  | setting (error : SettingsError)

def OrderError.message : OrderError → String
  | option e => e.message
  | setting e => e.message

/-- Read the arguments of the command: whether help is wanted, the settings and the operands. -/
def order (args : List String) : Except OrderError (Bool × Settings × List String) := do
  let a ← (table.read args).mapError .option
  let options := OrderedMap.ofList a.options
  let settings ← (Settings.ofOptions options.entries).mapError .setting
  pure (options.contains "-h" || options.contains "--help", settings, a.operands)

def run (args : List String) : Session Unit :=
  match order args with
  | .error e => Session.refuse e.message Usage.parser
  | .ok (true, _, _) => Session.print Usage.parserHelp
  | .ok (false, settings, operands) =>
      match operands with
      | treebank :: files =>
          if files.length ≤ 2 then trainAndParse settings treebank files
          else Session.refuse "incorrect number of arguments" Usage.parser
      | [] => Session.refuse "incorrect number of arguments" Usage.parser

end Constituency.Cli.Parsing
