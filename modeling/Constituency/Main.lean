import Constituency.Cli.Command

/-!
# The program

The files that the arguments name or match are read, the command runs on them, and what it has
written is written out. Standard input is read when the command asks for it.
-/
namespace Constituency.Cli.Program

/-- The names that a name on a path stands for in a directory. -/
def namesFor (start name : String) : IO (List String) := do
  if !Text.isPattern name then return [name]
  let directory := (← IO.currentDir) / start
  if ← directory.isDir then
    return (← directory.readDir).toList.map (·.fileName) |>.filter (Text.matchesName name)
  return []

/-- The directories, without contents, and the files that names lead to from a directory on. -/
def find (start : String) : List String → IO (List (String × Option ByteArray))
  | [] => return []
  | name :: rest => do
      match Files.turn? start name with
      | some next => find next rest
      | none =>
          let found ← (← namesFor start name).mapM fun n => do
            let here := start ++ n
            let path := (← IO.currentDir) / here
            if ← path.isDir then return (here ++ "/", none) :: (← find (here ++ "/") rest)
            else if ← path.pathExists then return [(here, some (← IO.FS.readBinFile path))]
            else return []
          return found.flatten

/-- What the command is given to work on. -/
def workspace (args : List String) : IO Workspace := do
  let found := (← args.mapM fun a => find (Files.origin a) (Files.names a)).flatten
  let files := Files.ofList (found.filterMap fun f => f.2.map fun bytes => (f.1, bytes))
    (found.filterMap fun f => if f.2.isNone then some f.1 else none)
  return ⟨files, (← IO.currentDir).toString, none, .empty, "", "unmeasured"⟩

/-- Write out what a command has left behind. -/
def release (before after : Workspace) : IO Unit := do
  for (name, bytes) in after.files.contents.entries do
    if before.files.contents.get? name != some bytes then
      IO.FS.writeBinFile ((← IO.currentDir) / name) bytes
  (← IO.getStdout).write after.output
  IO.eprint after.report

/-- Run a command, with standard input if it is needed, and give its exit status. -/
def run (args : List String) : IO UInt32 := do
  let before ← workspace args
  let result ← match Command.execute args before with
    | (.inputWanted, _) => do
        let input ← (← IO.getStdin).readBinToEnd
        pure (Command.execute args { before with input := some input })
    | result => pure result
  release before result.2
  match result.1 with
  | .exit status => return status.toUInt32
  | .failed failure => do
      IO.eprintln failure.message
      return 1
  | .inputWanted => return 1

end Constituency.Cli.Program

def main (args : List String) : IO UInt32 := Constituency.Cli.Program.run args
