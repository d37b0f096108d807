import Constituency.Bracket.Printer
import Constituency.OrderedMap
import Constituency.Text.Integer

/-!
# Settings of a parser

The settings with which a parser is trained and run, their defaults, and how they are read from
options of a command line. An option that names no setting is ignored.
-/
namespace Constituency

structure Settings where
  /-- The label of the root of every tree. -/
  root : String
  /-- Words that occur less often are smoothed. -/
  rareThreshold : Int
  /-- The greatest length of a sentence to train on; zero and none are no limit. -/
  maxLength : Option Int
  /-- The number of sentences that are parsed at the same time. -/
  workers : Int
  /-- How much is reported: warnings, progress, or every sentence. -/
  verbosity : Int
  /-- The name of the output format. -/
  format : String
  /-- The name of the encoding of all files. -/
  encoding : String
  /-- The treatment of function tags. -/
  functions : Option String
  deriving Repr, DecidableEq

inductive SettingsError where
  | number (error : Text.IntegerError)
  /-- A number that is negative, or zero for the number of workers. -/
  | notPositive (name : String)
  | unknownFormat (name : String)
  deriving Repr, DecidableEq

def SettingsError.message : SettingsError → String
  | number e => e.message
  | notPositive name => "expected positive number for --" ++ name
  | unknownFormat name => "unrecognized output format: " ++ Text.quoted name

namespace Settings

def default : Settings where
  root := "ROOT"
  rareThreshold := 10
  maxLength := none
  workers := 1
  verbosity := 1
  format := "bracket"
  encoding := "utf8"
  functions := some "remove"

/-- An option value that must be a number of at least `least`. -/
def number (name value : String) (least : Int) : Except SettingsError Int := do
  let n ← (Text.readInt value).mapError .number
  if n < least then .error (.notPositive name) else pure n

/-- Change the setting of a name. -/
def set (s : Settings) (name value : String) : Except SettingsError Settings :=
  match name with
  | "root" => .ok { s with root := value }
  | "rarethreshold" => (number name value 0).map fun n => { s with rareThreshold := n }
  | "maxlen" => (number name value 0).map fun n => { s with maxLength := some n }
  | "numproc" => (number name value 1).map fun n => { s with workers := n }
  | "verbosity" => (number name value 0).map fun n => { s with verbosity := n }
  | "fmt" => .ok { s with format := value }
  | "encoding" => .ok { s with encoding := value }
  | "functions" => .ok { s with functions := some value }
  | _ => .ok s

/-- The name of an option without the hyphens in front. -/
def bareName (option : String) : String :=
  String.ofList (option.toList.dropWhile (· == '-'))

/-- The settings of options, each with its value, taken in order. -/
def ofOptions (options : List (String × String)) : Except SettingsError Settings := do
  let s ← options.foldlM (fun s o => s.set (bareName o.1) o.2) default
  if (Tree.Format.ofName? s.format).isNone then .error (.unknownFormat s.format)
  else pure (if s.functions = some "leave" then { s with functions := none } else s)

end Settings

end Constituency
