import RetentionPlan.Distinct
import RetentionPlan.Loading.Ancestry

/-!
# Rules

A rule says which types to keep: an explicit root with its subtypes, a supertype with its subtypes,
or the bearers of an attribute. Within each kind the first matching rule of a set wins.
-/
namespace RetentionPlan

open Loading (Loader Fault)

/-- What makes a type be kept. -/
inductive Rule where
  | explicitRoot (type : String)
  | supertypeRoot (type : String)
  | attributeMarker (name : String)
  deriving DecidableEq, Repr

def Rule.reason : Rule → String
  | explicitRoot type => type
  | supertypeRoot type => type
  | attributeMarker name => name

/-- Rules of every kind in order of declaration. -/
structure RuleSet where
  explicitRoots : List String := []
  supertypes : List String := []
  attributes : List String := []
  /-- Where the rules were declared. -/
  source : String := "inline"
  deriving DecidableEq, Repr, Inhabited

namespace RuleSet

/-- The set of the given names, the first copy of each being kept. -/
def ofNames (explicitRoots supertypes attributes : List String) (source : String) : RuleSet :=
  ⟨distinct explicitRoots, distinct supertypes, distinct attributes, source⟩

/-- The rules of several sets, one after the other. -/
def merge (first : RuleSet) (others : List RuleSet) : RuleSet :=
  let sets := first :: others
  ⟨distinct (sets.flatMap (·.explicitRoots)), distinct (sets.flatMap (·.supertypes)),
    distinct (sets.flatMap (·.attributes)), String.intercalate "+" (sets.map (·.source))⟩

def isEmpty (rules : RuleSet) : Bool :=
  rules.explicitRoots.isEmpty && rules.supertypes.isEmpty && rules.attributes.isEmpty

/-- Do two sets hold the same rules in the same order, wherever declared? -/
def sameRules (a b : RuleSet) : Bool :=
  a.explicitRoots = b.explicitRoots && a.supertypes = b.supertypes && a.attributes = b.attributes

variable {m : Type → Type} [Monad m]

def firstAssignable (loader : Loader m) (d : TypeDescriptor) :
    List String → m (Except Fault (Option String))
  | [] => return .ok none
  | name :: rest => do
    match ← loader.isAssignable d name with
    | .error e => return .error e
    | .ok true => return .ok (some name)
    | .ok false => firstAssignable loader d rest

def matchExplicitRoot (rules : RuleSet) (loader : Loader m) (d : TypeDescriptor) :
    m (Except Fault (Option Rule)) := do
  return (← firstAssignable loader d rules.explicitRoots).map (·.map .explicitRoot)

/-- The rule that wins for the type once roots are settled: an attribute goes before every
supertype. -/
def matchPostRegistration (rules : RuleSet) (loader : Loader m) (d : TypeDescriptor) :
    m (Except Fault (Option Rule)) := do
  match rules.attributes.find? d.hasAttribute with
  | some name => return .ok (some (.attributeMarker name))
  | none => return (← firstAssignable loader d rules.supertypes).map (·.map .supertypeRoot)

end RuleSet
end RetentionPlan
