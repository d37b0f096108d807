import Constituency.Eval.Evaluator
import Constituency.Files
import Constituency.OrderedMap
import Constituency.Parser.Basic
import Constituency.Text.Encoding.Names
import Constituency.Treebank

/-!
# Sessions

A command reads files and standard input, and writes files, standard output and a report of its
progress. A session is a computation on these; it gives a value or ends the command, and what was
written before the end stays written. Standard input can be read once, and only if it is provided.
-/
namespace Constituency.Cli

/-- The files and channels that a command works on. -/
structure Workspace where
  files : Files
  /-- The name of the directory, as messages show it. -/
  location : String
  /-- What is left of standard input, if it has been provided. -/
  input : Option ByteArray
  output : ByteArray
  report : String
  /-- How the report shows a time that has passed. -/
  elapsed : String

inductive Failure where
  | treebank (error : TreebankError)
  | noTrees (name : String)
  | training (error : TrainingError Float)
  | production (error : GrammarError Float)
  | path (error : PathError)
  | codec (error : Text.CodecError)
  | corpus (error : CorpusError)
  /-- A failure while several sentences were parsed at the same time. -/
  | worker (error : CorpusError)
  | writing (error : Tree.WriteError)
  /-- Words and a gap to be put in order. -/
  | unsortedWords
  | noGoldTrees
  | noCandidateTrees
  | noGoldTree (number : Nat)
  | comparison (error : ComparisonError)
  | tagging (error : Measure.AccuracyError)
  /-- The number of columns for the key of a sentence is out of reach. -/
  | width

def Failure.message : Failure → String
  | treebank e => e.message
  | noTrees name => "no trees in treebank: " ++ Text.quoted name
  | training e => e.message
  | production e => e.message
  | path e => e.message
  | codec e => e.message
  | corpus (.parse .noEstimate) | worker (.parse .noEstimate) => "no estimate for an unseen word"
  | corpus (.parse (.derivation e)) | worker (.parse (.derivation e)) => e.message
  | corpus (.write e) | worker (.write e) | writing e => e.message
  | unsortedWords => "missing word"
  | noGoldTrees => "no trees in gold file"
  | noCandidateTrees => "no trees in parses file"
  | noGoldTree n => "no gold tree for sentence " ++ toString n
  | comparison e => e.message
  | tagging e => e.message
  | width => EntryError.width.message

/-- The failure of a command at a pair of trees. -/
def Failure.ofEntry : EntryError → Failure
  | .comparison e => comparison e
  | .tagging e => tagging e
  | .width => width

inductive Ending where
  | exit (status : Nat)
  | failed (failure : Failure)
  /-- Standard input was not provided, and is needed. -/
  | inputWanted

/-- A computation on files and channels that may end the command. -/
abbrev Session (α : Type) := ExceptT Ending (StateM Workspace) α

namespace Session

/-- End the command with a failure. -/
def fail {α : Type} (failure : Failure) : Session α := throw (.failed failure)

/-- A result that must not be a failure. -/
def need {ε α : Type} (cause : ε → Failure) : Except ε α → Session α
  | .ok a => pure a
  | .error e => fail (cause e)

@[simp] theorem need_ok {ε α : Type} (cause : ε → Failure) (a : α) :
    need cause (.ok a) = pure a := rfl

@[simp] theorem need_error {ε α : Type} (cause : ε → Failure) (e : ε) :
    need (α := α) cause (.error e) = fail (cause e) := rfl

/-- A session that fails leaves everything as it was. -/
theorem run_fail {α : Type} (failure : Failure) (w : Workspace) :
    (fail failure : Session α).run.run w = (.error (.failed failure), w) := rfl

/-! ## Channels -/

def print (s : String) : Session Unit :=
  modify fun w => { w with output := w.output ++ (s ++ "\n").toUTF8 }

def report (s : String) : Session Unit := modify fun w => { w with report := w.report ++ s ++ "\n" }

/-- Complain, show how the command is called, and end it. -/
def refuse {α : Type} (complaint usage : String) : Session α := do
  report ("error: " ++ complaint)
  print usage
  throw (.exit 2)

/-- The text of a time that has passed. -/
def elapsed : Session String := return (← get).elapsed

/-! ## Files -/

/-- The name of standard input and standard output. -/
def standard : String := "-"

/-- The bytes of standard input that are left. -/
def readInput : Session ByteArray := do
  let w ← get
  match w.input with
  | none => throw .inputWanted
  | some bytes =>
      set { w with input := some .empty }
      pure bytes

/-- The name of the file to read at the end of a path. -/
def source (path : String) : Session String := do need .path ((← get).files.source path)

/-- The name of the file to write at the end of a path. -/
def target (path : String) : Session String := do need .path ((← get).files.target path)

/-- Change the contents of a file, which are empty while there is none. -/
def changeFile (name : String) (f : ByteArray → ByteArray) : Session Unit :=
  modify fun w =>
    let contents := w.files.contents.alter name fun old => f (old.getD .empty)
    { w with files := { w.files with contents } }

def readFile (path : String) : Session ByteArray := do
  if path = standard then readInput else need .path ((← get).files.read path)

/-- Begin a file anew, so that it has no contents. -/
def createFile (path : String) : Session Unit := do
  if path = standard then pure () else changeFile (← target path) fun _ => .empty

/-- Add bytes to the end of a file or of standard output. -/
def appendBytes (path : String) (bytes : ByteArray) : Session Unit := do
  if path = standard then modify fun w => { w with output := w.output ++ bytes }
  else changeFile (← target path) (· ++ bytes)

/-- The encoding of a name. -/
def encoding (name : String) : Session Text.Encoding := need .codec (Text.Encoding.forFile name)

/-- Find the file that is to be read in an encoding. -/
def openInput (path encodingName : String) : Session Text.Encoding := do
  need .codec (Text.Encoding.checkName encodingName)
  if path ≠ standard then let _ ← source path
  encoding encodingName

/-- Begin anew a file that is to be written in an encoding. -/
def openOutput (path encodingName : String) : Session Text.Encoding := do
  need .codec (Text.Encoding.checkName encodingName)
  createFile path
  encoding encodingName

/-- Whether nothing has been written to a file or to standard output yet. -/
def isUnwritten (path : String) : Session Bool := do
  if path = standard then pure ((← get).output.size = 0)
  else
    let name ← target path
    pure (((← get).files.contents.get? name).all (·.size = 0))

/-- Add text to the end of a file. -/
def append (path : String) (e : Text.Encoding) (s : String) : Session Unit := do
  appendBytes path (← need .codec (e.write (← isUnwritten path) s))

/-! ## Treebanks -/

/-- A treebank that has been found. -/
structure Corpus where
  paths : List String
  encoding : String
  options : TreebankOptions

/-- The treatment of function tags that options ask for; to leave them is no treatment. -/
def functionTags (options : OrderedMap String String) (fallback : Option String) : Option String :=
  ((options.get? "--functions").orElse fun _ => fallback).filter (· != "leave")

/-- Find the files of a treebank. -/
def findCorpus (path encoding : String) (root functions : Option String) : Session Corpus := do
  let strip ← need .treebank (Treebank.stripFunctions? functions)
  let w ← get
  let paths := if path = standard then [standard] else w.files.expand path
  if paths.isEmpty then fail (.treebank (.noFiles path w.location))
  pure ⟨paths, encoding, ⟨root, strip⟩⟩

/-- The contents of the files of a treebank, as far as there are files. -/
def corpusFiles (c : Corpus) : Session (List (Except PathError ByteArray)) :=
  c.paths.mapM fun path => do
    if path = standard then pure (.ok (← readInput)) else pure ((← get).files.read path)

/-- The trees of a treebank in front of the first error, and the error. -/
def readCorpus (c : Corpus) : Session (Treebank.Reading Tree) := do
  pure (Treebank.trees c.options c.encoding (← corpusFiles c))

def allTrees (c : Corpus) : Session (List Tree) := do
  need .treebank (← readCorpus c).all

end Session

end Constituency.Cli
