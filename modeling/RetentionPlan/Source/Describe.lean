import RetentionPlan.Distinct
import RetentionPlan.Source.Module
import RetentionPlan.Types.Descriptor

/-!
# Descriptors of declared types

The members of a type are read off the statements of its body, and its fields also off the
assignments inside its constructor. Of two members of one kind and name the first counts.
-/
namespace RetentionPlan.Source

/-- The statements directly inside a statement. -/
def Stmt.children : Stmt → List Stmt
  | .function _ _ _ body | .type _ _ _ _ body | .block body => body
  | _ => []

/-- Two lists of levels side by side. -/
def joinLevels {α : Type} : List (List α) → List (List α) → List (List α)
  | [], bs => bs
  | as, [] => as
  | a :: as, b :: bs => (a ++ b) :: joinLevels as bs

mutual
/-- A statement and all inside it, level by level. -/
def Stmt.levels : Stmt → List (List Stmt)
  | .function name parameters decorators body =>
      [.function name parameters decorators body] :: levelsOf body
  | .type name bases keywords decorators body =>
      [.type name bases keywords decorators body] :: levelsOf body
  | .block body => [.block body] :: levelsOf body
  | s => [[s]]

def levelsOf : List Stmt → List (List Stmt)
  | [] => []
  | s :: rest => joinLevels s.levels (levelsOf rest)
end

def Stmt.targets : Stmt → List Expr
  | .assign targets _ => targets
  | .annotate target | .augment target => [target]
  | _ => []

def Expr.attributeOf? (receiver : String) : Expr → Option String
  | .member value attr => if value.isName receiver then some attr else none
  | _ => none

/-- The fields that a constructor assigns to its receiver, the first parameter that can also be
given by keyword. -/
def Stmt.receiverFields (s : Stmt) (parameters : Parameters) : List String :=
  match parameters.positional with
  | [] => []
  | receiver :: _ =>
    (s.levels.flatten.flatMap Stmt.targets).filterMap (·.attributeOf? receiver)

/-- The number of arguments that a call has to give; the receiver of a bound function is not
counted. -/
def Parameters.required (ps : Parameters) (bound : Bool) : Nat :=
  let positional := ps.positionalOnly.length + ps.positional.length
  (if bound then positional - 1 else positional) - ps.defaults + ps.keywordOnly.count false

/-- Functions that make an instance. -/
def constructorNames : List String := ["__init__", "__new__"]

/-- The variable that lists the permitted subtypes of a sealed type. -/
def permittedVariable : String := "__permitted_subclasses__"

/-- The variable that lists the fields of a type. -/
def slotsVariable : String := "__slots__"

/-- The decorator of functions that take no receiver. -/
def staticDecorator : String := "builtins.staticmethod"

def abstractBases : List String := ["abc.ABC", "typing.Protocol", "typing_extensions.Protocol"]

def abstractMetaclasses : List String := ["abc.ABCMeta"]

/-- Decorators of members that a concrete type has to supply. -/
def abstractDecorators : List String :=
  ["abc.abstractmethod", "abc.abstractproperty", "abc.abstractclassmethod",
    "abc.abstractstaticmethod"]

def Expr.text? : Expr → Option String
  | .text value => some value
  | _ => none

namespace Module

/-- The qualified names that expressions stand for. -/
def qualifyAll (module : Module) (es : List Expr) : List String :=
  (es.filterMap module.qualify).filter (· ≠ "")

/-- The members that an assignment of `value` to `target` in the body of `owner` declares. -/
def assignedMembers (module : Module) (owner : String) (value : Expr) : Expr → List Member
  | .name id =>
    if id = permittedVariable then
      (module.qualifyAll value.elements).map fun subtype =>
        ⟨subtype, .permittedSubtype, owner, [], none⟩
    else if id = slotsVariable then
      (value.elements.filterMap Expr.text?).map fun field => ⟨field, .field, owner, [], none⟩
    else [⟨id, .field, owner, [], none⟩]
  | _ => []

def statementMembers (module : Module) (owner : String) (s : Stmt) : List Member :=
  match s with
  | .function name parameters decorators _ =>
    let attributes := module.qualifyAll decorators
    let bound := !attributes.contains staticDecorator
    let kind := if constructorNames.contains name then MemberKind.constructor else .method
    let fields := if name = "__init__" then s.receiverFields parameters else []
    ⟨name, kind, owner, attributes, some (parameters.required bound)⟩ ::
      fields.map fun field => ⟨field, .field, owner, [], none⟩
  | .type name _ _ decorators _ =>
    [⟨name, .nestedType, owner, module.qualifyAll decorators, none⟩]
  | .annotate (.name id) => [⟨id, .component, owner, [], none⟩]
  | .assign targets value => targets.flatMap (module.assignedMembers owner value)
  | _ => []

def members (module : Module) (owner : String) (body : List Stmt) : List Member :=
  distinctBy Member.key (body.flatMap (module.statementMembers owner))

def metaclass? (module : Module) (declared : TypeStatement) : Option String :=
  (declared.keywords.lookup "metaclass").bind module.qualify

def describe (module : Module) (localName : String) (declared : TypeStatement) : TypeDescriptor :=
  let name := module.name ++ "." ++ localName
  let supertypes := module.qualifyAll declared.bases
  let members := module.members name declared.body
  { name
    module := module.name
    origin := some module.path.toString
    abstract :=
      supertypes.any abstractBases.contains ||
        (module.metaclass? declared).any abstractMetaclasses.contains ||
        members.any (·.attributes.any abstractDecorators.contains)
    supertypes
    attributes := module.qualifyAll declared.decorators
    members }

end Module
end RetentionPlan.Source
