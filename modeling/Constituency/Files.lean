import Constituency.OrderedMap
import Constituency.Text.Blank
import Constituency.Text.Pattern

/-!
# Files and directories

Files lie in directories and are found by paths. A path is followed name by name, from the directory
in which the program runs or, with a slash in front, from the root of all directories: an empty name
and a dot stay where they are, two dots lead up, and any other name leads into a directory or, as
the last one, to a file. What a path can be used for, to read a file or to write one, is decided
here, and which files a path with patterns in it stands for.
-/
namespace Constituency

/-- Files with their contents, and the directories that they and others may lie in. A file is named by
the shortest path to it, a directory by the same with a slash at the end. -/
structure Files where
  contents : OrderedMap String ByteArray
  directories : List String

inductive PathError where
  | missing
  | isADirectory
  /-- A file is followed by more names, or by a slash. -/
  | notADirectory
  | tooLong
  /-- A path with the null character in it. -/
  | nullCharacter
  deriving Repr, DecidableEq

def PathError.message : PathError → String
  | missing => "no such file"
  | isADirectory => "is a directory"
  | notADirectory => "not a directory"
  | tooLong => "name too long"
  | nullCharacter => "embedded null byte"

/-- Where a path leads. -/
inductive Place where
  | directory (start : String)
  | file (name : String)
  /-- A directory without a file of the name. -/
  | vacant (name : String)
  deriving Repr, DecidableEq

namespace Files

/-- The names on a path. -/
def names (path : String) : List String := (Text.fields '/' path.toList).map String.ofList

/-- The number of bytes that a name may have. -/
def maxName : Nat := 255

/-- The number of bytes that a path may have. -/
def maxPath : Nat := 4095

/-- Where the first name of a path is looked up. -/
def origin (path : String) : String := if path.toList.head? = some '/' then "/" else ""

/-- The directory above a directory. Nothing is above the root. -/
def parent (start : String) : String :=
  let above := start.toList.reverse.drop 1
  let name := above.takeWhile (· != '/')
  if start = "/" then start
  else if name = [] ∨ name = ['.', '.'] then start ++ "../"
  else String.ofList (above.dropWhile (· != '/')).reverse

/-- The directory that a name leads to whatever the files are. -/
def turn? (start name : String) : Option String :=
  if name = "" ∨ name = "." then some start
  else if name = ".." then some (parent start)
  else none

/-- Whether a directory is there whatever the files are. -/
def isAlwaysThere (start : String) : Bool := (names start).all fun n => n == "" || n == ".."

/-- The directories on the way to a file, for what has been passed, last character first, and for
what lies ahead. -/
def above (passed : List Char) : List Char → List String
  | [] => []
  | c :: cs =>
      if c = '/' then String.ofList (c :: passed).reverse :: above (c :: passed) cs
      else above (c :: passed) cs

/-- Files, with the directories that they lie in and further ones. -/
def ofList (files : List (String × ByteArray)) (further : List String) : Files where
  contents := .ofList files
  directories :=
    ((files.flatMap fun f => above [] f.1.toList) ++ further).eraseDups.filter (!isAlwaysThere ·)

/-! ## Following a path -/

/-- Follow names from a directory on. -/
def walk (fs : Files) (start : String) : List String → Except PathError Place
  | [] => .ok (.directory start)
  | name :: rest =>
      match turn? start name with
      | some next => walk fs next rest
      | none =>
          let here := start ++ name
          if maxName < name.utf8ByteSize then .error .tooLong
          else if fs.directories.contains (here ++ "/") then walk fs (here ++ "/") rest
          else if fs.contents.contains here then
            if rest.isEmpty then .ok (.file here) else .error .notADirectory
          else if rest.isEmpty then .ok (.vacant here)
          else .error .missing

/-- Follow the names that are on a path, or some of them. -/
def follow (fs : Files) (path : String) (names : List String) : Except PathError Place :=
  if path.toList.contains '\x00' then .error .nullCharacter
  else if maxPath < path.utf8ByteSize then .error .tooLong
  else if path = "" then .error .missing
  else fs.walk (origin path) names

/-- Where a path leads. -/
def lookUp (fs : Files) (path : String) : Except PathError Place := fs.follow path (names path)

def has (fs : Files) (path : String) : Bool :=
  match fs.lookUp path with
  | .ok (.file _) | .ok (.directory _) => true
  | _ => false

def hasDirectory (fs : Files) (path : String) : Bool :=
  match fs.lookUp path with
  | .ok (.directory _) => true
  | _ => false

/-- The file to read at the end of a path. -/
def source (fs : Files) (path : String) : Except PathError String :=
  match fs.lookUp path with
  | .ok (.file name) => .ok name
  | .ok (.directory _) => .error .isADirectory
  | .ok (.vacant _) => .error .missing
  | .error e => .error e

def read (fs : Files) (path : String) : Except PathError ByteArray :=
  (fs.source path).map fun name => (fs.contents.get? name).getD .empty

/-- The file to write at the end of a path; it need not be there. What a slash follows is taken for a
directory without being looked up, but the names in front of it are followed. -/
def target (fs : Files) (path : String) : Except PathError String :=
  let onPath := names path
  let trimmed := (onPath.reverse.dropWhile (· == "")).reverse
  let slash : Bool := trimmed.length < onPath.length
  match fs.follow path (if slash then trimmed.dropLast ++ [""] else onPath) with
  | .ok (.file name) | .ok (.vacant name) => .ok name
  | .ok (.directory _) => .error .isADirectory
  | .error e => .error e

/-! ## Patterns -/

/-- The rest of a path behind a directory, if it is a single name. -/
def nameIn? (start path : String) : Option String :=
  if start.toList.isPrefixOf path.toList then
    let rest := path.toList.drop start.length
    let name := Text.dropTrailing (· == '/') rest
    if name.isEmpty ∨ name.contains '/' then none else some (String.ofList name)
  else none

/-- The names of the files and directories in the directory that a path leads to. -/
def entries (fs : Files) (path : String) : List String :=
  match fs.lookUp path with
  | .ok (.directory start) => (fs.contents.keys ++ fs.directories).filterMap (nameIn? start)
  | _ => []

/-- The paths that continue a path, either empty or ending with a slash, by names that may be
patterns. A pattern in front of a slash matches directories only. -/
def matching (fs : Files) (start : String) : List String → List String
  | [] => []
  | name :: rest =>
      if Text.isPattern name then
        let found := (fs.entries (if start = "" then "." else start)).filter (Text.matchesName name)
        if rest.isEmpty then found.map (start ++ ·)
        else
          (found.filter fun n => fs.hasDirectory (start ++ n)).flatMap fun n =>
            matching fs (start ++ n ++ "/") rest
      else if rest.isEmpty then
        if fs.has (start ++ name) then [start ++ name] else []
      else matching fs (start ++ name ++ "/") rest

/-- The paths that a path with patterns stands for, in ascending order. -/
def expand (fs : Files) (path : String) : List String :=
  (fs.matching "" (names path)).mergeSort fun a b => a ≤ b

end Files

end Constituency
