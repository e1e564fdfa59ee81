import RetentionPlan.Journal
import RetentionPlan.Loading.Ancestry
import RetentionPlan.Registration.Sink

/-!
# Bulk registration

Registers a type with all its categories and every member that can be reached by reflection: those
it declares and the public ones it inherits. Constructors without arguments, methods with the
injectable attribute and serialization hooks are registered as invocable too. A refused member is
passed over.
-/
namespace RetentionPlan.Registration

open Loading (Loader Fault Found)

/-- The attribute of methods that have to stay invocable, unless another is configured. -/
def defaultInjectable : String := "regplan.markers.injectable"

/-- Methods that serialization calls by name. -/
def serializationHooks : List String :=
  ["__reduce__", "__reduce_ex__", "__getstate__", "__setstate__", "__getnewargs__",
    "__getnewargs_ex__"]

/-- The categories that are registered for every matched type. -/
def bulkCategories : List String :=
  ["declared_constructors", "constructors", "declared_methods", "methods", "declared_fields",
    "fields", "declared_classes", "classes", "nest_members", "permitted_subclasses", "components"]

/-- The members among `members` that are inherited: public, and not overridden by a key in
`overridden`. Returned with the keys that they override in turn. -/
def inheritedFrom (overridden : List (MemberKind × String)) :
    List Member → List Member × List (MemberKind × String)
  | [] => ([], overridden)
  | member :: rest =>
    if member.key ∈ overridden ∨ !member.isPublic then inheritedFrom overridden rest
    else
      let (more, overridden) := inheritedFrom (member.key :: overridden) rest
      (member :: more, overridden)

/-- The declared members and then the inherited ones, nearest ancestor first. -/
def reachableMembers (d : TypeDescriptor) (ancestors : List TypeDescriptor) : List Member :=
  d.members ++ (inheritedFrom (d.members.map (·.key)) (ancestors.flatMap (·.members))).1

def needsInvocation (injectable : String) (member : Member) : Bool :=
  match member.kind with
  | .constructor => member.isNoArgConstructor
  | .method => member.attributes.contains injectable || serializationHooks.contains member.name
  | _ => false

structure Register where
  sink : Sink := {}
  journal : Journal := []

namespace Register

/-- Registers members one by one and counts those that were accepted. -/
def addMembers (invocable : Bool) : List Member → Register → Nat × Register
  | [], r => (0, r)
  | member :: rest, r =>
    match r.sink.registerMember member invocable with
    | .ok sink =>
      let (count, r) := addMembers invocable rest { r with sink }
      (count + 1, r)
    | .error why =>
      let what := if invocable then "invocable member" else "member"
      addMembers invocable rest { r with
        journal := r.journal ++
          [⟨.debug, "registry", s!"Skipping {what} {member.qualifiedName}: {why}"⟩] }

def addType (d : TypeDescriptor) (r : Register) : Register :=
  { r with sink := bulkCategories.foldl (·.registerCategory d) (r.sink.registerType d) }

/-- Registers a type with the members that its ancestors give it. A fault met among the ancestors
stops the work after the members found before it. -/
def addAll (injectable : String) (d : TypeDescriptor) (ancestors : Found TypeDescriptor)
    (r : Register) : Except Fault Nat × Register :=
  let (count, r) := addMembers false (reachableMembers d ancestors.items) (r.addType d)
  match ancestors.fault with
  | some fault => (.error fault, r)
  | none =>
    let callable := (d.constructors ++ d.membersOf .method).filter (needsInvocation injectable)
    (.ok count, (addMembers true callable r).2)

variable {m : Type → Type} [Monad m]

/-- Registers a type with every reachable member and counts the members registered. -/
def registerAll (loader : Loader m) (injectable : String) (d : TypeDescriptor) (r : Register) :
    m (Except Fault Nat × Register) := do
  return r.addAll injectable d (← loader.ancestors d)

end Register
end RetentionPlan.Registration
