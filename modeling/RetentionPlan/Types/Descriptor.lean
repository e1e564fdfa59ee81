import RetentionPlan.Types.Member

/-!
# Type descriptors

A descriptor is what is known of a type without running any of its code: its names, those of its
supertypes and attributes, and its members.
-/
namespace RetentionPlan

structure TypeDescriptor where
  name : String
  /-- The module that declares the type. -/
  module : String
  /-- The file that declares the type. -/
  origin : Option String := none
  abstract : Bool := false
  supertypes : List String := []
  attributes : List String := []
  members : List Member := []
  deriving DecidableEq, Repr, Inhabited

namespace TypeDescriptor

def isConcrete (d : TypeDescriptor) : Bool := !d.abstract

def hasAttribute (d : TypeDescriptor) (name : String) : Bool := d.attributes.contains name

def membersOf (d : TypeDescriptor) (kind : MemberKind) : List Member :=
  d.members.filter (·.kind = kind)

def implicitConstructor (d : TypeDescriptor) : Member :=
  ⟨"__init__", .constructor, d.name, [], some 0⟩

/-- The declared constructors, or the implicit one. -/
def constructors (d : TypeDescriptor) : List Member :=
  match d.membersOf .constructor with
  | [] => [d.implicitConstructor]
  | declared => declared

end TypeDescriptor
end RetentionPlan
