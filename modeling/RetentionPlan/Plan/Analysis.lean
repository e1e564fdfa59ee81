import RetentionPlan.Plan.Planner

/-!
# The analysis between the phases

A stand-in for the analysis of a compiler: it reports types by name, in order and with repetitions.
Each is told to the planner once for every watched type that it is a proper subtype of.
-/
namespace RetentionPlan.Plan

open Loading (Loader Fault)

variable {m : Type → Type} [Monad m]

/-- Tells the planner of a type for every watched type above it, and counts how often. -/
def deliver (loader : Loader m) (d : TypeDescriptor) :
    (watched : List String) → Planner → m (Except Fault Nat × Planner)
  | [], p => return (.ok 0, p)
  | root :: rest, p => do
    if d.name = root then deliver loader d rest p
    else
      match ← loader.isAssignable d root with
      | .error e => return (.error e, p)
      | .ok false => deliver loader d rest p
      | .ok true =>
        let (count, p) ← deliver loader d rest (p.note d)
        return (count.map (· + 1), p)

/-- Reports types by name, and counts the deliveries. -/
def analyze (loader : Loader m) (watched : List String) :
    (reachable : List String) → Planner → m (Except Fault Nat × Planner)
  | [], p => return (.ok 0, p)
  | name :: rest, p => do
    match ← loader.find? name with
    | .error e => return (.error e, p)
    | .ok none =>
      let text := s!"Reachable type {name} is not on the classpath"
      analyze loader watched rest (p.leave [⟨.warning, "host", text⟩])
    | .ok (some d) =>
      match ← deliver loader d watched p with
      | (.error e, p) => return (.error e, p)
      | (.ok count, p) =>
        let (more, p) ← analyze loader watched rest p
        return (more.map (count + ·), p)

/-- Both phases around an analysis that reports the given types; answers with the number of
deliveries. Only the roots of this run are watched. -/
def Run.complete (loader : Loader m) (classpath : List Path) (reachable : List String) (r : Run) :
    m (Except PlanError Nat × Run) := do
  match ← { r with watched := [] }.beforeAnalysis loader classpath with
  | (.error e, r) => return (.error e, r)
  | (.ok (), r) =>
    match ← analyze loader r.watched reachable r.planner with
    | (.error e, p) => return (.error (.fault e), { r with planner := p })
    | (.ok count, p) =>
      match ← { r with planner := p }.afterRegistration loader classpath with
      | (.error e, r) => return (.error e, r)
      | (.ok (), r) => return (.ok count, r)

end RetentionPlan.Plan
