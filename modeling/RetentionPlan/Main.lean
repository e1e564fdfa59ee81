import RetentionPlan.CommandLine.Execution
import RetentionPlan.FileTree.Changes

/-!
# The program

Takes a picture of the files that the arguments and the working directory lead to, runs the command
on it, and writes back what the command has changed.
-/
namespace RetentionPlan.Main

/-- How far down a picture of a directory goes. -/
def maxDepth : Nat := 64

/-- The file or directory at a place. What cannot be read is left out. No times are kept, as nothing
changes while a command runs. -/
def picture (place : String) : Nat → IO (Option FileNode)
  | 0 => return none
  | depth + 1 => do
    let path := (← IO.currentDir) / place
    if ← path.isDir then
      let mut entries := []
      for entry in ← path.readDir do
        if let some node ← picture s!"{place}/{entry.fileName}" depth then
          entries := (entry.fileName, node) :: entries
      return some (.directory entries.reverse)
    else if ← path.pathExists then
      try
        let content ← IO.FS.readBinFile path
        return some (.file content 0)
      catch _ => return none
    else return none

def placeText (parts : List String) : String := "/" ++ String.intercalate "/" parts

def addPlace (top : FileNode) (parts : List String) : IO FileNode := do
  match ← picture (placeText parts) maxDepth with
  | some node => return top.put parts node
  | none => return top

/-- Where an argument leads if it is a path, also behind an equals sign. -/
def placeOf (w : Workspace) (arg : String) : Option (List String) :=
  let path := (CommandLine.atEquals arg.toList).elim arg fun (_, value) => String.ofList value
  match w.expandHome (.ofString path) with
  | .ok p => some (p.resolve w.cwdPath).parts
  | .error _ => none

def apply : Change → IO Unit
  | .directory parts => IO.FS.createDirAll (placeText parts)
  | .file parts content => IO.FS.writeBinFile (placeText parts) content

def environment : IO Config.Environment := do
  match ← IO.getEnv Config.manifestVariable with
  | some value => return [(Config.manifestVariable, value)]
  | none => return []

def workspace (args : List String) : IO Workspace := do
  let cwd := (Path.ofString (← IO.currentDir).toString).parts
  let bare : Workspace :=
    { top := .directory [], cwd, home := ← IO.getEnv "HOME", now := 0 }
  let places := cwd :: args.filterMap (placeOf bare)
  let top ← (places.filter (· ≠ [])).foldlM addPlace bare.top
  return { bare with top := if (top.find? cwd).isSome then top else top.put cwd (.directory []) }

/-- The exit code; a fault that has none is told on the console. -/
def exitCode : CommandLine.Ending → IO UInt32
  | .exit code => return code.toUInt32
  | .failed cause => do
    let text := match cause with
      | .access e => e.message
      | .config e => e.message?.getD "The settings cannot be read"
      | .fault e => e.message
    (← IO.getStderr).putStrLn text
    return 1

def run (args : List String) : IO UInt32 := do
  let before ← workspace args
  let outcome := CommandLine.execute ⟨before, ← environment, []⟩ args
  (outcome.workspace.top.changes (some before.top) []).forM apply
  (← IO.getStderr).putStr outcome.console
  (← IO.getStdout).putStr outcome.output
  exitCode outcome.ending

end RetentionPlan.Main

def main (args : List String) : IO UInt32 := RetentionPlan.Main.run args
