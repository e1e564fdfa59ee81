import RetentionPlan.Distinct
import RetentionPlan.Types.Descriptor

/-!
# The sink of registrations

The sink keeps what the built artefact has to preserve. Each kind of registration is a set, so
registering again changes nothing. A sink may refuse members.
-/
namespace RetentionPlan.Registration

/-- The registrations made so far. -/
structure Sink where
  types : Distinct String := .empty
  /-- Types with a category of members. -/
  categories : Distinct (String × String) := .empty
  /-- Qualified names of members. -/
  members : Distinct String := .empty
  /-- Those of them that can be invoked. -/
  invocable : Distinct String := .empty
  serialization : Distinct String := .empty
  /-- Why the sink refuses a member, if it does. -/
  refusal : Member → Option String := fun _ => none

namespace Sink

def registerType (s : Sink) (d : TypeDescriptor) : Sink := { s with types := s.types.insert d.name }

def registerCategory (s : Sink) (d : TypeDescriptor) (category : String) : Sink :=
  { s with categories := s.categories.insert (d.name, category) }

def registerSerialization (s : Sink) (d : TypeDescriptor) : Sink :=
  { s with serialization := s.serialization.insert d.name }

def registerMember (s : Sink) (member : Member) (invocable : Bool) : Except String Sink :=
  match s.refusal member with
  | some why => .error why
  | none =>
    .ok { s with
      members := s.members.insert member.qualifiedName
      invocable := if invocable then s.invocable.insert member.qualifiedName else s.invocable }

end Sink

/-- The contents of a sink as sorted texts. -/
structure Snapshot where
  types : List String
  categories : List String
  members : List String
  invocable : List String
  serialization : List String
  deriving DecidableEq, Repr

/-- The contents of a sink; a category is written after its type and a colon. -/
def Sink.snapshot (s : Sink) : Snapshot where
  types := sortedTexts s.types.toList
  categories := sortedTexts
    (s.categories.toList.map fun (type, category) => type ++ ":" ++ category)
  members := sortedTexts s.members.toList
  invocable := sortedTexts s.invocable.toList
  serialization := sortedTexts s.serialization.toList

end RetentionPlan.Registration
