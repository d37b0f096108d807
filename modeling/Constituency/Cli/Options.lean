/-!
# Options of a command line

Arguments are options and operands in any order. A long option may be shortened to any beginning
that no other option shares; its value follows an equals sign or is the next argument. Short
options have no values here and may stand together behind one hyphen. A lone hyphen is an operand,
and behind `--` there are operands only.
-/
namespace Constituency.Cli

structure LongOption where
  name : String
  takesValue : Bool
  deriving Repr, DecidableEq

/-- The options that a command knows. -/
structure OptionTable where
  short : List Char
  long : List LongOption
  deriving Repr

/-- Arguments sorted into options, with their hyphens and their values, and operands. -/
structure Arguments where
  options : List (String × String)
  operands : List String
  deriving Repr, DecidableEq

/-- Why arguments are refused. -/
inductive OptionError where
  | unknownLong (name : String)
  | unknownShort (name : Char)
  | ambiguous (name : String)
  | missingValue (name : String)
  | unwantedValue (name : String)
  deriving Repr, DecidableEq

namespace OptionError

def message : OptionError → String
  | unknownLong name => "option --" ++ name ++ " not recognized"
  | unknownShort name => "option -" ++ String.singleton name ++ " not recognized"
  | ambiguous name => "option --" ++ name ++ " not a unique prefix"
  | missingValue name => "option --" ++ name ++ " requires argument"
  | unwantedValue name => "option --" ++ name ++ " must not have an argument"

/-- The option at fault, without hyphens. -/
def name : OptionError → String
  | unknownLong name | ambiguous name | missingValue name | unwantedValue name => name
  | unknownShort name => String.singleton name

end OptionError

namespace OptionTable

/-- The long option that is meant by a name or the beginning of one. -/
def findLong (t : OptionTable) (name : List Char) : Except OptionError LongOption :=
  let possible := t.long.filter fun o => name.isPrefixOf o.name.toList
  match possible.find? fun o => o.name.toList == name with
  | some o => .ok o
  | none =>
      match possible with
      | [] => .error (.unknownLong (String.ofList name))
      | [o] => .ok o
      | _ => .error (.ambiguous (String.ofList name))

/-- A long option and the value behind its equals sign, if there is one. -/
def splitLong (cs : List Char) : List Char × Option String :=
  match cs.dropWhile (· != '=') with
  | _ :: value => (cs.takeWhile (· != '='), some (String.ofList value))
  | [] => (cs, none)

/-- The short options that stand together behind a hyphen. -/
def readShort (t : OptionTable) : List Char → Except OptionError (List (String × String))
  | [] => .ok []
  | c :: cs =>
      if t.short.contains c then do
        pure (("-" ++ String.singleton c, "") :: (← t.readShort cs))
      else .error (.unknownShort c)

/-- A long option with its value, and how many of the arguments behind it belong to it. -/
def readLong (t : OptionTable) (cs : List Char) (rest : List String) :
    Except OptionError ((String × String) × Nat) := do
  let (name, value) := splitLong cs
  let option ← t.findLong name
  match option.takesValue, value, rest with
  | true, some v, _ => pure (("--" ++ option.name, v), 0)
  | true, none, v :: _ => pure (("--" ++ option.name, v), 1)
  | true, none, [] => throw (.missingValue option.name)
  | false, none, _ => pure (("--" ++ option.name, ""), 0)
  | false, some _, _ => throw (.unwantedValue option.name)

/-- Read arguments behind the options and operands found so far. -/
def readFrom (t : OptionTable) (found : Arguments) : List String → Except OptionError Arguments
  | [] => .ok found
  | argument :: rest =>
      match argument.toList with
      | ['-', '-'] => .ok { found with operands := found.operands ++ rest }
      | '-' :: '-' :: cs => do
          let (option, used) ← t.readLong cs rest
          t.readFrom { found with options := found.options ++ [option] } (rest.drop used)
      | '-' :: c :: cs => do
          let options ← t.readShort (c :: cs)
          t.readFrom { found with options := found.options ++ options } rest
      | _ => t.readFrom { found with operands := found.operands ++ [argument] } rest
termination_by arguments => arguments.length
decreasing_by all_goals simp only [List.length_cons, List.length_drop]; omega

/-- Sort arguments into options and operands. -/
def read (t : OptionTable) (arguments : List String) : Except OptionError Arguments :=
  t.readFrom ⟨[], []⟩ arguments

/-- Behind `--` there are operands only. -/
theorem read_separator (t : OptionTable) (rest : List String) :
    t.read ("--" :: rest) = .ok ⟨[], rest⟩ := by
  have h : "--".toList = ['-', '-'] := by decide
  simp [read, readFrom, h]

/-- A lone hyphen is an operand. -/
theorem read_hyphen (t : OptionTable) : t.read ["-"] = .ok ⟨[], ["-"]⟩ := by
  have h : "-".toList = ['-'] := by decide
  simp [read, readFrom, h]

end OptionTable

end Constituency.Cli
