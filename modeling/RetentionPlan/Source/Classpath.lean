import RetentionPlan.FileTree.Workspace
import RetentionPlan.Loading.Loader
import RetentionPlan.Source.Describe
import RetentionPlan.Source.ModuleName
import RetentionPlan.Source.StatementGrammar

/-!
# Loading from a classpath

A qualified name is looked for in the source files below the roots of a classpath, and a name that a
module only imports is followed to the module that declares it. Modules are remembered by path, size
and time of change, so that files that were written between two queries are read again.
-/
namespace RetentionPlan.Source

open Loading (Loader LoadError)

structure ReadModule where
  path : Path
  size : Nat
  modified : Int
  module : Module

/-- The modules that have been read. -/
abbrev Cache := List ReadModule

/-- A query that may fail and that remembers modules. -/
abbrev Load (α : Type) := ExceptT LoadError (StateM Cache) α

/-- The size and the time of change of what a path leads to. -/
def stamp : FileNode → Nat × Int
  | .file content modified => (content.size, modified)
  | .directory _ => (0, 0)

/-- The remembered module of a file in that state. -/
def Cache.module? (cache : Cache) (path : Path) (size : Nat) (modified : Int) : Option Module :=
  (List.find? (fun c => c.path = path && c.size = size && c.modified = modified) cache).map
    (·.module)

/-- Remembers the module of a file, in place of what the file was before. -/
def Cache.remember (cache : Cache) (new : ReadModule) : Cache :=
  new :: cache.filter (·.path ≠ new.path)

/-- Passes on what a path leads to; a path that cannot be used ends the query. -/
def accessible {α : Type} : Except FileError α → Load α
  | .ok a => return a
  | .error e => throw (.fault (.access (.refused e)))

/-- The module of a source file that is counted from `root`. -/
def readModule (w : Workspace) (path root : Path) : Load Module := do
  let node ← match w.stat path with
    | .ok node => pure node
    | .error (.refused e) => throw (.unresolved (.cannotStat path e))
    | .error e => throw (.fault (.access e))
  let (size, modified) := stamp node
  match Cache.module? (← get) path size modified with
  | some module => return module
  | none =>
    let name ← match moduleName path root with
      | .ok name => pure name
      | .error (.path e) => throw (.fault (.name e))
      | .error (.unnamedInitialiser path) => throw (.unresolved (.unnamedInitialiser path))
    match w.readText path with
    | .error (.access (.refused e)) => throw (.unresolved (.cannotParse path (some e)))
    | .error _ => throw (.unresolved (.cannotParse path none))
    | .ok text =>
      match statementsOf? text with
      | none => throw (.unresolved (.cannotParse path none))
      | some body =>
        let module := Module.ofStatements name path body
        modify (Cache.remember · ⟨path, size, modified, module⟩)
        return module

/-- The module of a source file; none if the file is no module. -/
def module? (w : Workspace) (path root : Path) : Load (Option Module) :=
  tryCatch (some <$> readModule w path root) fun e =>
    match e with
    | .unresolved _ => return none
    | .fault _ => throw e

/-- The module of that name below the first of the roots that holds a file for it. -/
def findModule (w : Workspace) (name : String) : List Path → Load (Option Module)
  | [] => return none
  | root :: rest => do
    if ← accessible (w.isFile root) then
      if root.suffix = ".py" && root.stem = name then module? w root root.parent
      else findModule w name rest
    else
      let relative := Path.ofStrings (dottedParts name)
      match relative.withSuffix ".py" with
      | .error e => throw (.fault (.name e))
      | .ok file =>
        let package := root.join relative / Module.initialiserFile
        if ← accessible (w.isFile (root.join file)) then module? w (root.join file) root
        else if ← accessible (w.isFile package) then module? w package root
        else findModule w name rest

/-- Where one look-up of a name leads. -/
inductive Lead where
  | type (d : TypeDescriptor)
  /-- A module imports the name from elsewhere. -/
  | elsewhere (name : String)

/-- Where a module leads to for a name inside it. -/
def Module.lead? (module : Module) (name localName : String) : Option Lead :=
  match module.type? localName with
  | some declared => some (.type (module.describe localName declared))
  | none =>
    let (head, rest) := headAndRest localName
    match module.import? head with
    | none => none
    | some target =>
      if target = name then none
      else some (.elsewhere (if rest = "" then target else target ++ "." ++ rest))

/-- Where the first of several cuts of a name leads to that leads anywhere. -/
def leadOf (w : Workspace) (roots : List Path) (name : String) :
    List (String × String) → Load Lead
  | [] => throw (.unresolved (.notOnClasspath name))
  | (moduleName, localName) :: rest => do
    match (← findModule w moduleName roots).bind (·.lead? name localName) with
    | some lead => return lead
    | none => leadOf w roots name rest

/-- The most re-exports that are followed. -/
def maxReexports : Nat := 1000

def follow (w : Workspace) (roots : List Path) : Nat → (visited : List String) → String →
    Load TypeDescriptor
  | 0, _, _ => throw (.fault .endlessReexport)
  | hops + 1, visited, name => do
    if name ∈ visited then throw (.unresolved (.circularReexport name))
    match ← leadOf w roots name (cuts name) with
    | .type d => return d
    | .elsewhere target => follow w roots hops (name :: visited) target

/-- The loader of the roots of a classpath, which are absolute. Every byte of a file is part of at
most one supertype's name, so no more supertypes than the square of all bytes are ever met. -/
def sourceLoader (w : Workspace) (roots : List Path) : Loader (StateM Cache) where
  resolve name := (follow w roots maxReexports [] name).run
  declaredTypes path root := (Module.typeNames <$> readModule w path root).run
  supertypeCount := return (w.top.byteCount + 2) * (w.top.byteCount + 2)

end RetentionPlan.Source
