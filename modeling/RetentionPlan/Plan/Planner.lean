import RetentionPlan.Manifest
import RetentionPlan.Reachability
import RetentionPlan.Rules
import RetentionPlan.Scan.Universe

/-!
# The planner

A planner works in two phases around an analysis that is not its own. Before the analysis it keeps
the types that explicit roots select and asks to be told of types that become reachable below them;
after the initial registration it keeps those that attributes and supertypes select, and writes the
manifest. Each phase is entered once, in this order. Whatever ends a phase early, all that was done
before it stays done.
-/
namespace RetentionPlan.Plan

open Loading (Loader Fault Found)

inductive Phase where
  | preAnalysis
  | postRegistration
  deriving DecidableEq, Repr

def Phase.text : Phase → String
  | preAnalysis => "pre_analysis"
  | postRegistration => "post_registration"

/-- The phase that a planner has to be in for entering another. -/
def Phase.before? : Phase → Option Phase
  | preAnalysis => none
  | postRegistration => some preAnalysis

/-- What ends a phase early. -/
inductive PlanError where
  /-- The phase does not follow the one that the planner is in. -/
  | phase (entered : Phase) (current : Option Phase)
  | fault (cause : Fault)
  | manifest (cause : Manifest.WriteError)
  deriving DecidableEq, Repr

def PlanError.message : PlanError → String
  | phase entered current =>
    let place := current.elim "not started" Phase.text
    s!"Cannot enter {entered.text} while planner is {place}"
  | fault cause => cause.message
  | manifest cause => cause.message

/-- A planner: what it was given, and what it has done so far. -/
structure Planner where
  rules : RuleSet := {}
  scanner : Scan.Scanner := {}
  /-- Where the manifest goes, if one is wanted. -/
  manifest : Option Path := none
  injectable : String := Registration.defaultInjectable
  phase : Option Phase := none
  decisions : Distinct Decision := .empty
  reached : Reached := {}
  /-- The names of the types that each phase has dealt with, in order. -/
  visitedBefore : List String := []
  visitedAfter : List String := []

namespace Planner

def sink (p : Planner) : Registration.Sink := p.reached.register.sink

/-- The records left so far. -/
def journal (p : Planner) : Journal := p.reached.register.journal

def withRegister (p : Planner) (register : Registration.Register) : Planner :=
  { p with reached := { p.reached with register } }

def leave (p : Planner) (records : Journal) : Planner :=
  p.withRegister { p.reached.register with journal := p.journal ++ records }

def say (p : Planner) (phase : Phase) (level : Level) (text : String) : Planner :=
  p.leave [⟨level, "planner", phaseText phase.text text⟩]

/-- Enters a phase, if it is the next one. -/
def enter (p : Planner) (phase : Phase) : Except PlanError Planner :=
  if p.phase = phase.before? then .ok { p with phase := some phase }
  else .error (.phase phase p.phase)

def decide (p : Planner) (phase : Phase) (rule : Rule) (d : TypeDescriptor) : Planner :=
  match p.decisions.insertNew ⟨rule.reason, d.name⟩ with
  | (true, decisions) =>
    { p with decisions }.say phase .debug s!"Registering {d.name} (reason: {rule.reason})"
  | (false, _) => p

def serialize (p : Planner) (d : TypeDescriptor) : Planner :=
  p.withRegister { p.reached.register with sink := p.sink.registerSerialization d }

def note (p : Planner) (d : TypeDescriptor) : Planner := { p with reached := (p.reached.note d).2 }

def visit (p : Planner) (phase : Phase) (d : TypeDescriptor) : Planner :=
  match phase with
  | .preAnalysis => { p with visitedBefore := p.visitedBefore ++ [d.name] }
  | .postRegistration => { p with visitedAfter := p.visitedAfter ++ [d.name] }

variable {m : Type → Type} [Monad m]

def ruleFor (loader : Loader m) (phase : Phase) (rules : RuleSet) (d : TypeDescriptor) :
    m (Except Fault (Option Rule)) :=
  match phase with
  | .preAnalysis => rules.matchExplicitRoot loader d
  | .postRegistration => rules.matchPostRegistration loader d

/-- Keeps a type that a rule selects: the decision, and all registrations. Types selected before the
analysis are registered for serialization as well. -/
def keep (loader : Loader m) (phase : Phase) (rule : Rule) (d : TypeDescriptor) (p : Planner) :
    m (Except Fault Unit × Planner) := do
  let p := p.decide phase rule d
  let p := if phase = .preAnalysis then p.serialize d else p
  let (result, register) ← p.reached.register.registerAll loader p.injectable d
  return (result.map fun _ => (), p.withRegister register)

/-- Deals with scanned types one after the other and counts those that a rule selects. -/
def examine (loader : Loader m) (phase : Phase) :
    List TypeDescriptor → Planner → m (Except Fault Nat × Planner)
  | [], p => return (.ok 0, p)
  | d :: rest, p => do
    match ← ruleFor loader phase p.rules d with
    | .error e => return (.error e, p)
    | .ok none => examine loader phase rest (p.visit phase d)
    | .ok (some rule) =>
      match ← p.keep loader phase rule d with
      | (.error e, p) => return (.error e, p)
      | (.ok (), p) =>
        let (count, p) ← examine loader phase rest (p.visit phase d)
        return (count.map (· + 1), p)

/-- Scans the classpath and deals with all types: how many there are, and how many a rule
selects. -/
def survey (w : Workspace) (loader : Loader m) (classpath : List Path) (phase : Phase)
    (p : Planner) :
    m (Except Fault (Nat × Nat) × Planner) := do
  let (found, records) ← Scan.typeUniverse w p.scanner loader classpath
  let (count, p) ← examine loader phase found.items (p.leave records)
  match count, found.fault with
  | .error e, _ => return (.error e, p)
  | .ok _, some e => return (.error e, p)
  | .ok matched, none => return (.ok (found.items.length, matched), p)

/-- Looks up the explicit roots. Concrete ones are registered for serialization, and for each its
name is added to those that the analysis is to watch. -/
def watchRoots (loader : Loader m) :
    List String → (watched : List String) → Planner → m (Except Fault Unit × List String × Planner)
  | [], watched, p => return (.ok (), watched, p)
  | name :: rest, watched, p => do
    match ← loader.find? name with
    | .error e => return (.error e, watched, p)
    | .ok none =>
      let text := s!"Explicit root {name} is not on the classpath; skipping"
      watchRoots loader rest watched (p.say .preAnalysis .warning text)
    | .ok (some root) =>
      let p := if root.isConcrete then p.serialize root else p
      watchRoots loader rest (watched ++ [root.name]) p

end Planner

/-- A run under way: the planner, the files and the types whose subtypes the analysis watches. -/
structure Run where
  workspace : Workspace
  planner : Planner
  watched : List String := []

namespace Run
variable {m : Type → Type} [Monad m]

def beforeAnalysis (loader : Loader m) (classpath : List Path) (r : Run) :
    m (Except PlanError Unit × Run) := do
  match r.planner.enter .preAnalysis with
  | .error e => return (.error e, r)
  | .ok p =>
    match ← p.watchRoots loader p.rules.explicitRoots r.watched with
    | (.error e, watched, p) => return (.error (.fault e), { r with planner := p, watched })
    | (.ok (), watched, p) =>
      match ← p.survey r.workspace loader classpath .preAnalysis with
      | (.error e, p) => return (.error (.fault e), { r with planner := p, watched })
      | (.ok (scanned, matched), p) =>
        let text := s!"Scanned {scanned} types; registered {matched} explicit-root matches"
        return (.ok (), { r with planner := p.say .preAnalysis .info text, watched })

def writeManifest (r : Run) : Except PlanError Unit × Run :=
  match r.planner.manifest with
  | none => (.ok (), r)
  | some path =>
    match Manifest.write r.workspace path r.planner.decisions.toList with
    | (result, workspace, records) =>
      (match result with
        | .ok _ => .ok ()
        | .error e => .error (.manifest e),
        { r with workspace, planner := r.planner.leave records })

def afterRegistration (loader : Loader m) (classpath : List Path) (r : Run) :
    m (Except PlanError Unit × Run) := do
  match r.planner.enter .postRegistration with
  | .error e => return (.error e, r)
  | .ok p =>
    match ← p.survey r.workspace loader classpath .postRegistration with
    | (.error e, p) => return (.error (.fault e), { r with planner := p })
    | (.ok (scanned, matched), p) =>
      let text := s!"Scanned {scanned} types; registered {matched} attribute/supertype matches; " ++
        s!"{p.decisions.size} decisions in total"
      return { r with planner := p.say .postRegistration .info text }.writeManifest

end Run
end RetentionPlan.Plan
