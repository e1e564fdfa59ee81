import RetentionPlan.FileTree.Error
import RetentionPlan.Path

/-!
# Failures of loading

A name without a descriptor is an everyday event that scans and walks pass over. A fault is not: it
ends whatever was under way.
-/
namespace RetentionPlan.Loading

/-- Why a name or a source file has no descriptors. -/
inductive Unresolved where
  /-- The type is not among those known. -/
  | unknownType (name : String)
  /-- Following re-exports leads back to the name. -/
  | circularReexport (name : String)
  | notOnClasspath (name : String)
  /-- A package initialiser that no directory gives a name to. -/
  | unnamedInitialiser (path : Path)
  | cannotStat (path : Path) (why : FileError)
  /-- The file cannot be read (then with the failure), or its text is no module. -/
  | cannotParse (path : Path) (why : Option FileError)
  deriving DecidableEq, Repr

/-- The wording; what is wrong with a module's text is not told. -/
def Unresolved.message : Unresolved → String
  | unknownType name => "Unknown type: " ++ name
  | circularReexport name => "Circular re-export while resolving " ++ name
  | notOnClasspath name => "Type not found on classpath: " ++ name
  | unnamedInitialiser path => s!"{path} is a top-level package initialiser without a name"
  | cannotStat path why => s!"Cannot stat {path}: {why.message}"
  | cannotParse path none => s!"Cannot parse {path}"
  | cannotParse path (some why) => s!"Cannot parse {path}: {why.message}"

/-- What ends a query of a loader, and the run that made it. -/
inductive Fault where
  /-- A module's name stands for no path, or its file lies elsewhere than below its root. -/
  | name (cause : Path.NameError)
  /-- A path cannot be used at all. -/
  | access (cause : AccessError)
  /-- A chain of re-exports is longer than the loader follows. -/
  | endlessReexport
  /-- A scan is to be made by fewer than no workers. -/
  | noWorkers
  deriving DecidableEq, Repr

def Fault.message : Fault → String
  | name cause => cause.message
  | access cause => cause.message
  | endlessReexport => "maximum recursion depth exceeded"
  | noWorkers => "max_workers must be greater than 0"

/-- Either kind of failure. -/
inductive LoadError where
  | unresolved (cause : Unresolved)
  | fault (cause : Fault)
  deriving DecidableEq, Repr

/-- What was found before the end, and the fault if one ended it early. -/
structure Found (α : Type) where
  items : List α
  fault : Option Fault := none

namespace Found

/-- Nothing found, nothing wrong. -/
def none {α : Type} : Found α := ⟨[], .none⟩

/-- One more item in front. -/
def cons {α : Type} (a : α) (found : Found α) : Found α := ⟨a :: found.items, found.fault⟩

/-- The items, or the fault that cut them short. -/
def toExcept {α : Type} (found : Found α) : Except Fault (List α) :=
  match found.fault with
  | .none => .ok found.items
  | some fault => .error fault

@[simp]
theorem items_cons {α : Type} (a : α) (found : Found α) : (cons a found).items = a :: found.items :=
  rfl

@[simp]
theorem fault_cons {α : Type} (a : α) (found : Found α) : (cons a found).fault = found.fault := rfl

end Found
end RetentionPlan.Loading
