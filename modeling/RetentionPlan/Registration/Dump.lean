import RetentionPlan.FileTree.Workspace
import RetentionPlan.Json.Render
import RetentionPlan.Registration.Sink

/-!
# Dumps of a sink

The registrations of a sink as one JSON object, each kind sorted.
-/
namespace RetentionPlan.Registration

def Snapshot.toJson (s : Snapshot) : Json :=
  let texts (ss : List String) : Json := .array (ss.map .text)
  .object [("types", texts s.types), ("categories", texts s.categories),
    ("members", texts s.members), ("invocable", texts s.invocable),
    ("serialization", texts s.serialization)]

/-- Writes all registrations and makes the directories that the file needs. -/
def Sink.dump (s : Sink) (w : Workspace) (path : Path) : Except AccessError Unit × Workspace :=
  w.writeBelow path (Json.renderDocument .ascii s.snapshot.toJson)

end RetentionPlan.Registration
