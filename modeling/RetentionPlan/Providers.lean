import RetentionPlan.Journal
import RetentionPlan.Rules
import RetentionPlan.Unicode.Lowercase

/-!
# Providers of rules

Installed providers offer rule sets under names that are compared in lower case. Of several with one
name the first counts. A run may enable some of them by name; a name that no provider has is an
error, found after all providers were asked.
-/
namespace RetentionPlan

/-- What loading a provider gives. -/
inductive Offer where
  | rules (rules : RuleSet)
  /-- A function and the rule set that it returns, if it returns one. -/
  | factory (result : Option RuleSet)
  /-- Something that is neither. -/
  | unfit
  /-- Loading fails for the given reason. -/
  | broken (why : String)
  deriving DecidableEq, Repr

structure Provider where
  name : String
  offer : Offer
  deriving DecidableEq, Repr

/-- Why no rule sets are found. -/
inductive ProviderError where
  | broken (name why : String)
  | unfit (name : String)
  /-- Names that no provider has, sorted. -/
  | unknown (names : List String)
  deriving DecidableEq, Repr

def ProviderError.message : ProviderError → String
  | broken name why => s!"Failed to load rule provider '{name}': {why}"
  | unfit name => s!"Rule provider '{name}' must be a RuleSet or a factory returning one"
  | unknown names => "Unknown rule providers requested: " ++ String.intercalate ", " names

namespace Provider

/-- The name by which providers are told apart. -/
def key (p : Provider) : String := Unicode.lowercase p.name

def ruleSet (p : Provider) : Except ProviderError RuleSet :=
  match p.offer with
  | .rules rules => .ok rules
  | .factory (some rules) => .ok rules
  | .factory none => .error (.unfit p.name)
  | .unfit => .error (.unfit p.name)
  | .broken why => .error (.broken p.name why)

def loadedRecord (p : Provider) (rules : RuleSet) : Record :=
  ⟨.debug, "providers", s!"Loaded rule provider {p.name} ({rules.explicitRoots.length} roots, " ++
    s!"{rules.supertypes.length} supertypes, {rules.attributes.length} attributes)"⟩

/-- The first provider of every name that is enabled; no list of names enables all. -/
def considered (enabled : Option (List String)) (providers : List Provider) : List Provider :=
  let wanted (p : Provider) : Bool := match enabled with
    | none => true
    | some keys => keys.contains p.key
  let rec firsts (seen : List String) : List Provider → List Provider
    | [] => []
    | p :: rest => if p.key ∈ seen then firsts seen rest else p :: firsts (p.key :: seen) rest
  firsts [] (providers.filter wanted)

/-- Loads providers one by one up to the first that fails. -/
def loadAll : List Provider → Except ProviderError (List RuleSet) × Journal
  | [] => (.ok [], [])
  | p :: rest =>
    match p.ruleSet with
    | .error e => (.error e, [])
    | .ok rules =>
      let (result, journal) := loadAll rest
      (result.map (rules :: ·), p.loadedRecord rules :: journal)

/-- The rule sets of the enabled providers, in the order in which providers are installed. -/
def discover (providers : List Provider) (enabled : Option (List String)) :
    Except ProviderError (List RuleSet) × Journal :=
  let keys := enabled.map fun names => names.map Unicode.lowercase
  let chosen := considered keys providers
  match loadAll chosen with
  | (.error e, journal) => (.error e, journal)
  | (.ok sets, journal) =>
    let missing := (keys.getD []).filter fun key => !(chosen.map Provider.key).contains key
    match sortedTexts (distinct missing) with
    | [] => (.ok sets, journal)
    | names => (.error (.unknown names), journal)

end Provider
end RetentionPlan
