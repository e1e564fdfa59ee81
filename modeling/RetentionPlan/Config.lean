import RetentionPlan.FileTree.Workspace
import RetentionPlan.Number.Shortest
import RetentionPlan.Plan.Planner
import RetentionPlan.Providers
import RetentionPlan.Yaml.Datum

/-!
# Project settings

A project has its settings in a YAML file at its root. All of them have defaults, and a value of a
form that a setting does not take counts as if it were missing, except that a number of workers has
to be positive. The environment may name another manifest.
-/
namespace RetentionPlan

structure Config where
  root : Path
  /-- Where source files are looked for. -/
  classpath : List Path
  rules : RuleSet
  /-- The attribute that keeps members accessible. -/
  injectable : String := Registration.defaultInjectable
  excludePaths : List String := []
  workers : Option Int := none
  /-- Where the manifest goes, if one is wanted. -/
  manifest : Option Path := none
  /-- The names of the enabled providers; all are enabled if there is no list. -/
  providers : Option (List String) := none

inductive ConfigError where
  /-- A path cannot be used. -/
  | access (cause : AccessError)
  /-- The file has no text. -/
  | notText
  | unreadable (name : String) (cause : AccessError)
  | malformed (name : String)
  /-- A value in the file is not what its tag says. -/
  | badValue (cause : Yaml.Error)
  | notMapping (name : String)
  /-- An integer has too many digits to be written as text. -/
  | tooManyDigits
  | workers
  deriving DecidableEq, Repr

def ConfigError.message? : ConfigError → Option String
  | access cause => some cause.message
  | notText => none
  | unreadable name cause => some s!"Failed to read {name}: {cause.message}"
  | malformed name => some s!"Failed to parse {name}"
  | badValue _ => none
  | notMapping name => some s!"{name} must contain a mapping at the root"
  | tooManyDigits => none
  | workers => some "workers must be a positive integer"

namespace Config

def fileName : String := ".regplan.yml"

def manifestVariable : String := "REGPLAN_PROCESSED_ELEMENTS_PATH"

abbrev Environment := List (String × String)

/-- The entries of the mapping at the root of a file. -/
structure Entries where
  document : Yaml.Document := ⟨#[], .null⟩
  entries : List (Nat × Nat) := []

/-- The value of a key; nothing counts as missing. -/
def Entries.get (es : Entries) (key : String) : Yaml.Datum :=
  (es.document.lookup? es.entries key).getD .null

/-- The entries of a value, if it is a mapping. -/
def Entries.below (es : Entries) (key : String) : Entries :=
  match es.get key with
  | .mapping entries => { es with entries }
  | _ => { es with entries := [] }

def intText (n : Int) : Except ConfigError String :=
  match Integer.text? n with
  | some s => .ok s
  | none => .error .tooManyDigits

def text? : Yaml.Datum → Except ConfigError (Option String)
  | .text s => .ok (some s)
  | .int n => (intText n).map some
  | .float x => .ok (some (Shortest.Layout.plain.text x))
  | _ => .ok none

/-- The text of a member of a list: of a text, a number or a truth value. -/
def memberText? : Yaml.Datum → Except ConfigError (Option String)
  | .bool b => .ok (some (if b then "True" else "False"))
  | datum => text? datum

/-- A list of texts; a single text is a list as well, and so are bytes. -/
def texts (d : Yaml.Document) : Yaml.Datum → Except ConfigError (List String)
  | .text s => .ok [s]
  | .sequence items => do return (← items.mapM fun i => memberText? (d.part i)).filterMap id
  | .bytes bs => .ok (bs.map fun b => toString b.toNat)
  | _ => .ok []

def Entries.texts (es : Entries) (key : String) : Except ConfigError (List String) :=
  Config.texts es.document (es.get key)

def Entries.text? (es : Entries) (key : String) : Except ConfigError (Option String) := do
  return (← Config.text? (es.get key)).filter (· ≠ "")

def workers? : Yaml.Datum → Except ConfigError (Option Int)
  | .int n => positive n
  | .text s =>
    match Integer.parse s with
    | some n => positive n
    | none => .ok none
  | _ => .ok none
where
  /-- Refuses what is not positive. -/
  positive (n : Int) : Except ConfigError (Option Int) :=
    if n < 1 then .error .workers else .ok (some n)

/-- The enabled providers: a list, or a mapping with a list. -/
def enabled? (es : Entries) : Except ConfigError (Option (List String)) :=
  match es.get "providers" with
  | .null => .ok none
  | .mapping _ =>
    let below := es.below "providers"
    match es.document.lookup? below.entries "enabled" with
    | some _ => (below.texts "enabled").map some
    | none => .ok none
  | datum => (Config.texts es.document datum).map some

/-- The manifest that the environment names; relative paths are taken from the base. -/
def manifestOf (w : Workspace) (environment : Environment) (base : Option Path) :
    Except AccessError (Option Path) := do
  let value := Unicode.trim ((environment.lookup manifestVariable).getD "")
  if value = "" then return none
  let path ← w.expandHome (.ofString value)
  return some (base.elim path (·.join path))

/-- What a file operation gives, or the failure of the whole. -/
def accessing {α : Type} (result : Except AccessError α) : Except ConfigError α :=
  result.mapError .access

/-- The entries of a settings file. A file without anything in it has none. -/
def readEntries (read : Yaml.Reader) (w : Workspace) (file : Path) : Except ConfigError Entries :=
  match w.readText file with
  | .error .notText => .error .notText
  | .error (.access (.refused e)) => .error (.unreadable file.name (.refused e))
  | .error (.access e) => .error (.access e)
  | .ok text =>
    if Unicode.trim text = "" then .ok {}
    else
      match read text with
      | .error .malformed => .error (.malformed file.name)
      | .error e => .error (.badValue e)
      | .ok none => .ok {}
      | .ok (some document) =>
        match document.root with
        | .null => .ok {}
        | .mapping entries => .ok { document, entries }
        | _ => .error (.notMapping file.name)

/-- The settings file that a path means: the path itself, or the file in a directory. -/
def fileAt (w : Workspace) (path : Path) : Except AccessError Path := do
  let path ← w.expandHome path
  let isDirectory ← (w.isDirectory path).mapError .refused
  w.resolve (if isDirectory then path / fileName else path)

def entriesAt (read : Yaml.Reader) (w : Workspace) (file : Path) : Except ConfigError Entries := do
  if ← accessing ((w.pathExists file).mapError .refused) then readEntries read w file
  else return {}

/-- Where the manifest goes: the environment comes before the file. -/
def manifest? (w : Workspace) (environment : Environment) (root : Path) (es : Entries) :
    Except ConfigError (Option Path) := do
  match ← accessing (manifestOf w environment (some root)) with
  | some path => return some path
  | none => return (← es.text? "manifest_path").map (root / ·)

/-- The settings that the entries of a file give, with paths below the file's directory. -/
def ofEntries (w : Workspace) (environment : Environment) (root : Path) (es : Entries) :
    Except ConfigError Config := do
  let rules := es.below "rules"
  let explicitRoots ← rules.texts "explicit_roots"
  let supertypes ← rules.texts "supertypes"
  let attributes ← rules.texts "attributes"
  let entries ← es.texts "classpath"
  let workers ← workers? (es.get "workers")
  let manifest ← manifest? w environment root es
  let providers ← enabled? es
  let injectable ← es.text? "injectable_attribute"
  let excludePaths ← es.texts "exclude_paths"
  return {
    root
    classpath := if entries = [] then [root] else entries.map (root / ·)
    rules := .ofNames explicitRoots supertypes attributes fileName
    injectable := injectable.getD Registration.defaultInjectable
    excludePaths
    workers
    manifest
    providers }

/-- Reads the settings of a project, given the settings file or its directory. -/
def loadBy (read : Yaml.Reader) (w : Workspace) (path : Path) (environment : Environment) :
    Except ConfigError Config := do
  let file ← accessing (fileAt w path)
  let root ← accessing (w.resolve file.parent)
  ofEntries w environment root (← entriesAt read w file)

/-- The planner for a project, with the rules of the enabled providers behind its own. -/
def planner (c : Config) (installed : List Provider) (register : Registration.Register) :
    Except ProviderError Plan.Planner × Journal :=
  let (sets, journal) := Provider.discover installed c.providers
  (sets.map fun sets =>
    { rules := c.rules.merge sets
      scanner := .ofTexts c.excludePaths c.workers
      manifest := c.manifest
      injectable := c.injectable
      reached := { register := { register with journal := register.journal ++ journal } } },
    journal)

end Config
end RetentionPlan
