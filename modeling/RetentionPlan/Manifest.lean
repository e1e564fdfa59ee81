import RetentionPlan.Distinct
import RetentionPlan.FileTree.Workspace
import RetentionPlan.Journal
import RetentionPlan.Json.Reader
import RetentionPlan.Json.Render
import RetentionPlan.Reachability

/-!
# The manifest of decisions

Decisions are written as one JSON array, each once, by type and then by reason, so that the text
depends on the set of decisions alone. Reading gives the decisions of such an array and passes over
items of any other form.
-/
namespace RetentionPlan.Manifest

def item (d : Decision) : Json := .object [("reason", .text d.reason), ("type", .text d.type)]

def render (ds : List Decision) : String :=
  Json.renderDocument .unicode (.array ((Decision.sorted (distinct ds)).map item))

/-- Why a manifest is not written. -/
structure WriteError where
  path : Path
  cause : AccessError
  deriving DecidableEq, Repr

/-- The wording; a path that cannot be used at all speaks for itself. -/
def WriteError.message (e : WriteError) : String :=
  match e.cause with
  | .refused why => s!"Failed to write manifest to {e.path}: {why.message}"
  | cause => cause.message

/-- Writes the manifest and makes the directories that it needs. Answers with the path, in which the
home stands in place of a tilde. -/
def write (w : Workspace) (path : Path) (ds : List Decision) :
    Except WriteError Path × Workspace × Journal :=
  match w.expandHome path with
  | .error cause => (.error ⟨path, cause⟩, w, [])
  | .ok path =>
    match w.writeBelow path (render ds) with
    | (.error cause, w) => (.error ⟨path, cause⟩, w, [])
    | (.ok (), w) =>
      (.ok path, w, [⟨.info, "manifest", s!"Wrote registration manifest to {path}"⟩])

/-- Why a manifest is not read. -/
inductive LoadError where
  | read (cause : ReadError)
  | json (cause : Json.JsonError)
  | notArray
  deriving DecidableEq, Repr

def LoadError.message? : LoadError → Option String
  | read (.access e) => some e.message
  | read .notText => none
  | json e => e.message?
  | notArray => some "Registration manifest must be a JSON array"

def decision? (j : Json) : Option Decision := do
  return ⟨← (← j.field? "reason").text?, ← (← j.field? "type").text?⟩

def parse (text : String) : Except LoadError (List Decision) :=
  match Json.parse text with
  | .error e => .error (.json e)
  | .ok (.array items) => .ok (items.filterMap decision?)
  | .ok _ => .error .notArray

def load (w : Workspace) (path : Path) : Except LoadError (List Decision) :=
  match w.readText path with
  | .error e => .error (.read e)
  | .ok text => parse text

@[simp]
theorem decision?_item (d : Decision) : decision? (item d) = some d := rfl

end RetentionPlan.Manifest
