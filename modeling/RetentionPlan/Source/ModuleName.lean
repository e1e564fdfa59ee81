import RetentionPlan.Path

/-!
# Module names

A source file below a classpath root has a dotted name made of its path's components, without the
file's suffix. A package initialiser goes by the name of its directory.
-/
namespace RetentionPlan.Source

/-- Why a source file has no module name. -/
inductive ModuleNameError where
  /-- The path has no last component or lies elsewhere than below the root. -/
  | path (cause : Path.NameError)
  /-- An initialiser directly in the root has no directory to be named for. -/
  | unnamedInitialiser (path : Path)
  deriving DecidableEq, Repr

/-- The stem of a file that initialises the package of its directory. -/
def initialiserStem : String := "__init__"

/-- The parts of a module's name, the initialiser's own stem left out. -/
def moduleParts (parts : List String) : List String :=
  if parts.getLast? = some initialiserStem then parts.dropLast else parts

/-- The dotted name of the module in the file `path` below the classpath root `root`. -/
def moduleName (path root : Path) : Except ModuleNameError String :=
  match path.relativeTo root with
  | .error e => .error (.path e)
  | .ok relative =>
    match relative.withSuffix "" with
    | .error e => .error (.path e)
    | .ok plain =>
      match moduleParts plain.parts with
      | [] => .error (.unnamedInitialiser path)
      | parts => .ok (String.intercalate "." parts)

end RetentionPlan.Source
