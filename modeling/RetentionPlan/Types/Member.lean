/-!
# Members of a type

What a type declares in its body: constructors, methods, fields, nested types, permitted subtypes
and annotated components. Attributes are the qualified names of the decorators on a member.
-/
namespace RetentionPlan

inductive MemberKind where
  | constructor
  | method
  | field
  | nestedType
  | permittedSubtype
  | component
  deriving DecidableEq, Repr

namespace MemberKind

def text : MemberKind → String
  | constructor => "constructor"
  | method => "method"
  | field => "field"
  | nestedType => "nested_type"
  | permittedSubtype => "permitted_subtype"
  | component => "component"

def all : List MemberKind := [constructor, method, field, nestedType, permittedSubtype, component]

def ofText? (word : String) : Option MemberKind := all.find? (·.text == word)

end MemberKind

structure Member where
  name : String
  kind : MemberKind
  declaringType : String
  attributes : List String := []
  /-- The number of arguments that a call has to give, for a function. -/
  arity : Option Nat := none
  deriving DecidableEq, Repr

namespace Member

def qualifiedName (member : Member) : String := member.declaringType ++ "." ++ member.name

/-- A constructor that can be called without arguments. -/
def isNoArgConstructor (member : Member) : Bool :=
  member.kind = .constructor && member.arity = some 0

/-- A name is private if it begins with an underscore, unless two stand at both of its ends. -/
def isPublicName (name : String) : Bool :=
  let cs := name.toList
  cs.head? ≠ some '_' || (['_', '_'].isPrefixOf cs && ['_', '_'].isPrefixOf cs.reverse)

/-- May other types inherit the member? -/
def isPublic (member : Member) : Bool := isPublicName member.name

/-- What an ancestor's member is compared by with the members below it. -/
def key (member : Member) : MemberKind × String := (member.kind, member.name)

end Member
end RetentionPlan
