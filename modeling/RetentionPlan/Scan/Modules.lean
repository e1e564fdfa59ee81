import RetentionPlan.Distinct
import RetentionPlan.FileTree.Workspace
import RetentionPlan.Journal
import RetentionPlan.Scan.Exclusion

/-!
# Modules of a classpath

Lists the source files below each root: the files of a directory in the order of their names, then
its subdirectories in theirs, depth first. Some directories are never entered, and exclusions keep
out further directories and files.
-/
namespace RetentionPlan.Scan

/-- Directories that hold no sources of the program itself. -/
def skippedDirectories : List String :=
  [".git", ".hg", ".svn", ".venv", "venv", "node_modules", "__pycache__", ".pytest_cache",
    ".mypy_cache", ".tox", ".eggs", "build", "dist"]

def endsIn (ending text : String) : Bool := ending.toList.reverse.isPrefixOf text.toList.reverse

def sourceSuffix : String := ".py"

def entersDirectory (exclusions : List Exclusion) (above : List String) (name : String) : Bool :=
  !skippedDirectories.contains name && !endsIn ".egg-info" name &&
    !excluded exclusions (String.intercalate "/" (above ++ [name])) true

def listsFile (exclusions : List Exclusion) (above : List String) (name : String) : Bool :=
  endsIn sourceSuffix name && !excluded exclusions (String.intercalate "/" (above ++ [name])) false

/-- The names of the files among entries, sorted. -/
def fileNames (entries : List (String × FileNode)) : List String :=
  sortedTexts ((entries.filter (·.2.isFile)).map (·.1))

/-- Items in the order of the texts they stand with. -/
def byName {α : Type} (items : List (String × α)) : List (String × α) :=
  items.mergeSort fun a b => !decide (b.1 < a.1)

mutual
/-- The source files below a directory, as components from the root on. -/
def sourcesBelow (exclusions : List Exclusion) (above : List String) :
    FileNode → List (List String)
  | .file .. => []
  | .directory entries =>
    ((fileNames entries).filter (listsFile exclusions above)).map (fun name => above ++ [name]) ++
      (byName (sourcesOfEntries exclusions above entries)).flatMap (·.2)

/-- The source files below each subdirectory that is entered. -/
def sourcesOfEntries (exclusions : List Exclusion) (above : List String) :
    List (String × FileNode) → List (String × List (List String))
  | [] => []
  | (name, node) :: rest =>
    let more := sourcesOfEntries exclusions above rest
    if node.isDirectory && entersDirectory exclusions above name then
      (name, sourcesBelow exclusions (above ++ [name]) node) :: more
    else more
end

/-- A source file and the directory that its module name is counted from. -/
structure SourceFile where
  root : Path
  path : Path
  deriving DecidableEq, Repr

/-- The source files of one resolved root, which may be a file itself; nothing is known of a root
that does not exist. -/
def sourcesOfRoot (w : Workspace) (exclusions : List Exclusion) (root : Path) :
    Except FileError (Option (List SourceFile)) := do
  match ← w.stat? root with
  | none => return none
  | some (.file ..) =>
    return some (if root.suffix = sourceSuffix then [⟨root.parent, root⟩] else [])
  | some node =>
    return some ((sourcesBelow exclusions [] node).map fun parts =>
      ⟨root, ⟨root.anchor, root.parts ++ parts⟩⟩)

/-- A classpath entry as an absolute path without double dots. -/
def resolvedRoot (w : Workspace) (entry : Path) : Except AccessError Path := do
  w.resolve (← w.expandHome entry)

/-- The source files of all roots in order, with a record for every root that does not exist. -/
def modules (w : Workspace) (exclusions : List Exclusion) :
    List Path → Except AccessError (List SourceFile) × Journal
  | [] => (.ok [], [])
  | entry :: rest =>
    match resolvedRoot w entry with
    | .error e => (.error e, [])
    | .ok root =>
      match sourcesOfRoot w exclusions root with
      | .error e => (.error (.refused e), [])
      | .ok found =>
        let absent : Journal := match found with
          | none => [⟨.debug, "scanner", s!"Classpath root {root} does not exist; skipping"⟩]
          | some _ => []
        let (more, journal) := modules w exclusions rest
        (more.map (found.getD [] ++ ·), absent ++ journal)

end RetentionPlan.Scan
