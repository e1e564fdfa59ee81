import RetentionPlan.Yaml.Kind

/-!
# Nodes of a document

The nodes of a document have numbers, as a node may stand at several places, even within itself.
-/
namespace RetentionPlan.Yaml

inductive Content where
  | scalar (text : String)
  | sequence (items : List Nat)
  | mapping (entries : List (Nat × Nat))
  deriving DecidableEq, Repr, Inhabited

structure Node where
  kind : Kind
  content : Content
  deriving Repr

/-- The nodes of a document by their numbers. -/
abbrev Nodes := Array Node

def Nodes.entries? (nodes : Nodes) (i : Nat) : Option (List (Nat × Nat)) :=
  match nodes[i]? with
  | some ⟨_, .mapping entries⟩ => some entries
  | _ => none

/-- Changes what a node holds. -/
def Nodes.setContent (nodes : Nodes) (i : Nat) (content : Content) : Nodes :=
  nodes.modify i fun node => { node with content }

end RetentionPlan.Yaml
