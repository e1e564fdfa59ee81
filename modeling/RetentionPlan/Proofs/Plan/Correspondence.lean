import RetentionPlan.Plan.Analysis
import RetentionPlan.Proofs.Loading.Correspondence

/-!
# Runs with corresponding loaders

Matching rules, registering members, scanning and both phases of a plan only use the answers of the
loader. So runs with corresponding loaders correspond.
-/
namespace RetentionPlan

/-- Is a source file among those that some scan of a classpath lists? -/
def Scan.Lists (classpath : List Path) (path root : Path) : Prop :=
  ∃ w scanner roots files journal, classpath.mapM (resolvedRoot w) = .ok roots ∧
    modules w (Scanner.exclusions scanner) roots = (.ok files, journal) ∧ ⟨root, path⟩ ∈ files

theorem Scan.rel_describeNames {m n : Type → Type} [Monad m] [Monad n]
    {R : Loading.Correspondence m n}
    {loader : Loading.Loader m} {other : Loading.Loader n} {names : List String}
    (h : ∀ name ∈ names, R.Rel (loader.resolve name) (other.resolve name)) :
    R.Rel (describeNames loader names) (describeNames other names) := by
  induction names with
  | nil => exact R.pure _
  | cons name rest ih =>
    rw [List.forall_mem_cons] at h
    refine R.bind (Loading.Loader.rel_find? h.1) fun found => ?_
    rcases found with _ | found
    · exact R.pure _
    · refine R.bind (ih h.2) fun more => ?_
      cases more <;> exact R.pure _

namespace Loading.Loader.Corresponds

open Plan

variable {m n : Type → Type} [Monad m] [Monad n]
variable {R : Correspondence m n} {asked : (path root : Path) → Prop}
variable {loader : Loader m} {other : Loader n}

theorem firstAssignable (h : loader.Corresponds R asked other) (d : TypeDescriptor)
    (names : List String) :
    R.Rel (RuleSet.firstAssignable loader d names) (RuleSet.firstAssignable other d names) := by
  induction names with
  | nil => exact R.pure _
  | cons name rest ih =>
    refine R.bind (h.isAssignable d name) fun answer => ?_
    rcases answer with _ | _ | _
    · exact R.pure _
    · exact ih
    · exact R.pure _

theorem matchExplicitRoot (h : loader.Corresponds R asked other) (rules : RuleSet)
    (d : TypeDescriptor) :
    R.Rel (rules.matchExplicitRoot loader d) (rules.matchExplicitRoot other d) :=
  R.bind (h.firstAssignable d _) fun _ => R.pure _

theorem matchPostRegistration (h : loader.Corresponds R asked other) (rules : RuleSet)
    (d : TypeDescriptor) :
    R.Rel (rules.matchPostRegistration loader d) (rules.matchPostRegistration other d) := by
  unfold RuleSet.matchPostRegistration
  cases rules.attributes.find? d.hasAttribute with
  | some name => exact R.pure _
  | none => exact R.bind (h.firstAssignable d _) fun _ => R.pure _

theorem ruleFor (h : loader.Corresponds R asked other) (phase : Phase) (rules : RuleSet)
    (d : TypeDescriptor) :
    R.Rel (Planner.ruleFor loader phase rules d) (Planner.ruleFor other phase rules d) := by
  cases phase with
  | preAnalysis => exact h.matchExplicitRoot rules d
  | postRegistration => exact h.matchPostRegistration rules d

theorem registerAll (h : loader.Corresponds R asked other) (injectable : String)
    (d : TypeDescriptor) (r : Registration.Register) :
    R.Rel (r.registerAll loader injectable d) (r.registerAll other injectable d) :=
  R.bind (h.ancestors d) fun _ => R.pure _

theorem keep (h : loader.Corresponds R asked other) (phase : Phase) (rule : Rule)
    (d : TypeDescriptor) (p : Planner) :
    R.Rel (p.keep loader phase rule d) (p.keep other phase rule d) :=
  R.bind (h.registerAll _ d _) fun _ => R.pure _

theorem examine (h : loader.Corresponds R asked other) (phase : Phase) (ds : List TypeDescriptor)
    (p : Planner) :
    R.Rel (Planner.examine loader phase ds p) (Planner.examine other phase ds p) := by
  induction ds generalizing p with
  | nil => exact R.pure _
  | cons d rest ih =>
    refine R.bind (h.ruleFor phase p.rules d) fun selected => ?_
    rcases selected with _ | _ | rule
    · exact R.pure _
    · exact ih _
    · refine R.bind (h.keep phase rule d p) fun kept => ?_
      obtain ⟨_ | _, p⟩ := kept
      · exact R.pure _
      · exact R.bind (ih _) fun _ => R.pure _

theorem describeFile (h : loader.Corresponds R asked other) {file : Scan.SourceFile}
    (hfile : asked file.path file.root) :
    R.Rel (Scan.describeFile loader file) (Scan.describeFile other file) := by
  refine R.bind (h.declaredTypes hfile) fun names => ?_
  rcases names with (_ | _) | names
  · exact R.pure _
  · exact R.pure _
  · exact Scan.rel_describeNames fun name _ => h.resolve name

theorem mapM_loop {α β : Type} {f : α → m β} {g : α → n β} {as : List α}
    (hfg : ∀ a ∈ as, R.Rel (f a) (g a)) (done : List β) :
    R.Rel (List.mapM.loop f as done) (List.mapM.loop g as done) := by
  induction as generalizing done with
  | nil => exact R.pure _
  | cons a as ih =>
    rw [List.forall_mem_cons] at hfg
    exact R.bind hfg.1 fun b => ih hfg.2 (b :: done)

variable {classpath : List Path}

theorem typeUniverse (h : loader.Corresponds R (Scan.Lists classpath) other) (w : Workspace)
    (scanner : Scan.Scanner) :
    R.Rel (Scan.typeUniverse w scanner loader classpath)
      (Scan.typeUniverse w scanner other classpath) := by
  unfold Scan.typeUniverse
  cases hroots : classpath.mapM (Scan.resolvedRoot w) with
  | error e => exact R.pure _
  | ok roots =>
    dsimp only
    rcases hfiles : Scan.modules w scanner.exclusions roots with ⟨_ | files, journal⟩
    · exact R.pure _
    · dsimp only
      split
      · exact R.pure _
      · have hlists : ∀ file ∈ files, Scan.Lists classpath file.path file.root :=
          fun file hfile => ⟨w, scanner, roots, files, journal, hroots, hfiles, hfile⟩
        exact R.bind (mapM_loop (fun file hfile => h.describeFile (hlists file hfile)) [])
          fun _ => R.pure _

theorem survey (h : loader.Corresponds R (Scan.Lists classpath) other) (w : Workspace)
    (phase : Phase) (p : Planner) :
    R.Rel (p.survey w loader classpath phase) (p.survey w other classpath phase) := by
  refine R.bind (h.typeUniverse w p.scanner) fun scanned => ?_
  refine R.bind (h.examine phase scanned.1.items _) fun examined => ?_
  obtain ⟨found, records⟩ := scanned
  obtain ⟨count, p⟩ := examined
  cases count <;> cases found.fault <;> exact R.pure _

theorem watchRoots (h : loader.Corresponds R asked other) (names watched : List String)
    (p : Planner) :
    R.Rel (p.watchRoots loader names watched) (p.watchRoots other names watched) := by
  induction names generalizing watched p with
  | nil => exact R.pure _
  | cons name rest ih =>
    refine R.bind (h.find? name) fun found => ?_
    rcases found with _ | _ | root
    · exact R.pure _
    · exact ih _ _
    · exact ih _ _

theorem beforeAnalysis (h : loader.Corresponds R (Scan.Lists classpath) other) (r : Run) :
    R.Rel (r.beforeAnalysis loader classpath) (r.beforeAnalysis other classpath) := by
  unfold Run.beforeAnalysis
  cases r.planner.enter .preAnalysis with
  | error e => exact R.pure _
  | ok p =>
    refine R.bind (h.watchRoots _ _ p) fun watching => ?_
    obtain ⟨_ | _, watched, p⟩ := watching
    · exact R.pure _
    · refine R.bind (h.survey _ _ p) fun surveyed => ?_
      obtain ⟨_ | _, p⟩ := surveyed <;> exact R.pure _

theorem afterRegistration (h : loader.Corresponds R (Scan.Lists classpath) other) (r : Run) :
    R.Rel (r.afterRegistration loader classpath) (r.afterRegistration other classpath) := by
  unfold Run.afterRegistration
  cases r.planner.enter .postRegistration with
  | error e => exact R.pure _
  | ok p =>
    refine R.bind (h.survey _ _ p) fun surveyed => ?_
    obtain ⟨_ | _, p⟩ := surveyed <;> exact R.pure _

theorem deliver (h : loader.Corresponds R asked other) (d : TypeDescriptor) (watched : List String)
    (p : Planner) :
    R.Rel (Plan.deliver loader d watched p) (Plan.deliver other d watched p) := by
  induction watched generalizing p with
  | nil => exact R.pure _
  | cons root rest ih =>
    unfold Plan.deliver
    split
    · exact ih p
    · refine R.bind (h.isAssignable d root) fun answer => ?_
      rcases answer with _ | _ | _
      · exact R.pure _
      · exact ih p
      · exact R.bind (ih _) fun _ => R.pure _

theorem analyze (h : loader.Corresponds R asked other) (watched reachable : List String)
    (p : Planner) :
    R.Rel (Plan.analyze loader watched reachable p) (Plan.analyze other watched reachable p) := by
  induction reachable generalizing p with
  | nil => exact R.pure _
  | cons name rest ih =>
    refine R.bind (h.find? name) fun found => ?_
    rcases found with _ | _ | d
    · exact R.pure _
    · exact ih _
    · refine R.bind (h.deliver d watched p) fun delivered => ?_
      obtain ⟨_ | _, p⟩ := delivered
      · exact R.pure _
      · exact R.bind (ih _) fun _ => R.pure _

theorem complete (h : loader.Corresponds R (Scan.Lists classpath) other)
    (reachable : List String) (r : Run) :
    R.Rel (r.complete loader classpath reachable) (r.complete other classpath reachable) := by
  refine R.bind (h.beforeAnalysis _) fun before => ?_
  obtain ⟨_ | _, r⟩ := before
  · exact R.pure _
  · refine R.bind (h.analyze _ reachable _) fun analyzed => ?_
    obtain ⟨_ | _, p⟩ := analyzed
    · exact R.pure _
    · refine R.bind (h.afterRegistration _) fun after => ?_
      obtain ⟨_ | _, r⟩ := after <;> exact R.pure _

end Loading.Loader.Corresponds
end RetentionPlan
