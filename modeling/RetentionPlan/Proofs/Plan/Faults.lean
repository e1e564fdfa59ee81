import RetentionPlan.Proofs.Loading.Trace
import RetentionPlan.Proofs.Plan.Correspondence
import RetentionPlan.Proofs.Plan.Given

/-!
# What cuts a run short

A run has no failures of its own. If the files of the classpath can be listed at all, it comes to
its end unless some question to the loader meets a fault, and every such question cuts it short.
-/
namespace RetentionPlan

open Loading (Loader Fault Found Logged Clean Tracks Fails logging answer after)

variable {σ : Type}

namespace Scan

/-- Can the files of a classpath be listed for a scan? -/
def Walks (w : Workspace) (scanner : Scanner) (classpath : List Path) : Prop :=
  ∃ roots files journal, classpath.mapM (resolvedRoot w) = .ok roots ∧
    modules w scanner.exclusions roots = (.ok files, journal) ∧ 0 ≤ scanner.workerCount

theorem fault_collect (rs : List (Except Fault (List TypeDescriptor))) (seen : List String) :
    (collect seen rs).fault = none ↔ ∀ r ∈ rs, r.isOk := by
  induction rs generalizing seen with
  | nil => simp [collect, Found.none]
  | cons r rest ih =>
    cases r with
    | error e => simp [collect, Except.isOk, Except.toBool]
    | ok ds => simp [collect, ih, Except.isOk, Except.toBool]

variable (loader : Loader (StateM σ))

theorem tracks_describeNames (names : List String) :
    Tracks (·.isOk) (describeNames loader.traced names) := by
  induction names with
  | nil => exact .pure rfl
  | cons name rest ih =>
    refine (loader.tracks_find? name).bind_except (fun found => ?_) fun e =>
      .pure Bool.false_ne_true
    exact ih.bind_except (fun more => .pure rfl) fun e => .pure Bool.false_ne_true

theorem tracks_describeFile (file : SourceFile) :
    Tracks (·.isOk) (describeFile loader.traced file) := by
  refine (Loading.tracks_ask (.declaredTypes file.path file.root)
    (loader.declaredTypes file.path file.root)).bind (fun s h => ?_) fun s h => ?_
  · generalize answer (Loading.ask _ _) s = r at h
    rcases r with (why | fault) | names
    · exact .pure rfl
    · cases h
    · exact tracks_describeNames loader names
  · generalize answer (Loading.ask _ _) s = r at h
    rcases r with (why | fault) | names
    · exact absurd rfl h
    · exact .pure Bool.false_ne_true
    · exact absurd rfl h

theorem tracks_mapM_describeFile (files : List SourceFile) :
    Tracks (∀ r ∈ ·, r.isOk) (files.mapM (describeFile loader.traced)) := by
  induction files with
  | nil => exact .pure (by simp)
  | cons file rest ih =>
    have hlog := loader.traced_corresponds fun _ _ => True
    rw [List.mapM_cons]
    refine (tracks_describeFile loader file).bind (fun s hfile => ?_) fun s hfile => ?_
    · refine ih.bind (fun s hrest => .pure ?_) fun s hrest => .pure ?_
      · exact List.forall_mem_cons.mpr ⟨hfile, hrest⟩
      · exact fun h => hrest (List.forall_mem_cons.mp h).2
    · have hrest : (logging loader fun _ _ => True).Rel (rest.mapM (describeFile loader.traced))
          (rest.mapM (describeFile loader)) :=
        Loader.Corresponds.mapM_loop (fun file _ => hlog.describeFile trivial) []
      exact .of_logging hrest (.trivial _) fun rs _ =>
        .pure fun h => hfile (List.forall_mem_cons.mp h).1

variable {w : Workspace} {scanner : Scanner} {classpath : List Path}

theorem tracks_typeUniverse (h : Walks w scanner classpath) :
    Tracks (·.1.fault = none) (typeUniverse w scanner loader.traced classpath) := by
  obtain ⟨roots, files, journal, hroots, hfiles, hcount⟩ := h
  simp only [typeUniverse, hroots, hfiles, if_neg (not_lt.mpr hcount)]
  refine (tracks_mapM_describeFile loader files).bind (fun s h => .pure ?_) fun s h => .pure ?_
  · exact (fault_collect _ _).mpr h
  · exact fun hnone => h ((fault_collect _ _).mp hnone)

theorem fails_typeUniverse (h : ¬ Walks w scanner classpath) :
    Fails (·.1.fault = none) (typeUniverse w scanner loader.traced classpath) := by
  unfold typeUniverse
  cases hroots : classpath.mapM (resolvedRoot w) with
  | error e => exact .pure (Option.some_ne_none _)
  | ok roots =>
    dsimp only
    rcases hfiles : modules w scanner.exclusions roots with ⟨_ | files, journal⟩
    · exact .pure (Option.some_ne_none _)
    · dsimp only
      split
      · exact .pure (Option.some_ne_none _)
      · next hcount => exact absurd ⟨roots, files, journal, hroots, hfiles, not_lt.mp hcount⟩ h

end Scan

/-- A bulk registration is cut short by a fault among the ancestors and by nothing else. -/
theorem Registration.Register.isOk_addAll (injectable : String) (d : TypeDescriptor)
    (ancestors : Found TypeDescriptor) (r : Registration.Register) :
    (r.addAll injectable d ancestors).1.isOk ↔ ancestors.fault = none := by
  unfold addAll
  cases ancestors.fault <;> simp [Except.isOk, Except.toBool]

namespace RuleSet
variable (loader : Loader (StateM σ))

theorem tracks_firstAssignable (d : TypeDescriptor) (names : List String) :
    Tracks (·.isOk) (firstAssignable loader.traced d names) := by
  induction names with
  | nil => exact .pure rfl
  | cons name rest ih =>
    refine (loader.tracks_isAssignable d name).bind_except ?_ fun e => .pure Bool.false_ne_true
    rintro (_ | _)
    · exact ih
    · exact .pure rfl

end RuleSet

namespace Plan
variable (loader : Loader (StateM σ)) {w : Workspace} {classpath : List Path}

namespace Planner

theorem tracks_ruleFor (phase : Phase) (rules : RuleSet) (d : TypeDescriptor) :
    Tracks (·.isOk) (ruleFor loader.traced phase rules d) := by
  cases phase with
  | preAnalysis =>
    exact (RuleSet.tracks_firstAssignable loader d _).bind_except (fun _ => .pure rfl) fun _ =>
      .pure Bool.false_ne_true
  | postRegistration =>
    simp only [ruleFor, RuleSet.matchPostRegistration]
    cases rules.attributes.find? d.hasAttribute with
    | some name => exact .pure rfl
    | none =>
      exact (RuleSet.tracks_firstAssignable loader d _).bind_except (fun _ => .pure rfl) fun _ =>
        .pure Bool.false_ne_true

theorem tracks_keep (phase : Phase) (rule : Rule) (d : TypeDescriptor) (p : Planner) :
    Tracks (·.1.isOk) (p.keep loader.traced phase rule d) := by
  have hok (result : Except Fault Nat × Registration.Register) (q : Planner) :
      (result.1.map fun _ => (), q.withRegister result.2).1.isOk = result.1.isOk := by
    rcases result with ⟨_ | _, _⟩ <;> rfl
  have hregister (injectable : String) (r : Registration.Register) :
      Tracks (·.1.isOk) (r.registerAll loader.traced injectable d) := by
    refine (loader.tracks_ancestors d).bind (fun s h => .pure ?_) fun s h => .pure ?_
    · exact (Registration.Register.isOk_addAll _ _ _ _).mpr h
    · exact fun hgood => h ((Registration.Register.isOk_addAll _ _ _ _).mp hgood)
  refine (hregister _ _).bind (fun s h => .pure ?_) fun s h => .pure ?_
  · exact (hok _ _).trans h
  · exact fun hgood => h ((hok _ _).symm.trans hgood)

theorem tracks_examine (phase : Phase) (ds : List TypeDescriptor) (p : Planner) :
    Tracks (·.1.isOk) (examine loader.traced phase ds p) := by
  induction ds generalizing p with
  | nil => exact .pure rfl
  | cons d rest ih =>
    refine (tracks_ruleFor loader phase p.rules d).bind_except ?_ fun e => .pure Bool.false_ne_true
    rintro (_ | rule)
    · exact ih _
    · refine (tracks_keep loader phase rule d p).bind_except_fst (.trivial _) (fun _ q _ => ?_)
        fun e q => .pure Bool.false_ne_true
      exact (ih _).bind_except_fst (.trivial _) (fun _ _ _ => .pure rfl) fun _ _ =>
        .pure Bool.false_ne_true

/-- A survey tracks its questions if the files can be listed, and comes to a bad end otherwise. -/
theorem tracks_or_fails_survey (phase : Phase) (p : Planner) :
    (Scan.Walks w p.scanner classpath →
      Tracks (·.1.isOk) (p.survey w loader.traced classpath phase)) ∧
    (¬ Scan.Walks w p.scanner classpath →
      Fails (·.1.isOk) (p.survey w loader.traced classpath phase)) := by
  have hlog := loader.traced_corresponds fun _ _ => True
  refine ⟨fun h => (Scan.tracks_typeUniverse loader h).bind (fun s hscan => ?_) fun s => ?_,
    fun h => (Scan.fails_typeUniverse loader h).bind ?_⟩
  · generalize answer (Scan.typeUniverse w p.scanner loader.traced classpath) s = scan at hscan
    obtain ⟨⟨items, fault⟩, records⟩ := scan
    obtain rfl : fault = none := hscan
    exact (tracks_examine loader phase items _).bind_except_fst (.trivial _)
      (fun _ _ _ => .pure rfl) fun _ _ => .pure Bool.false_ne_true
  on_goal 1 => generalize answer (Scan.typeUniverse w p.scanner loader.traced classpath) s = scan
  on_goal 2 => intro scan
  -- After a scan that a fault cut short, the types that were found are dealt with all the same.
  all_goals
    intro hscan
    obtain ⟨⟨items, fault⟩, records⟩ := scan
    refine .of_logging (hlog.examine phase items (p.leave records)) (.trivial _) fun examined _ =>
      ?_
    obtain ⟨_ | matched, q⟩ := examined
    · exact .pure Bool.false_ne_true
    · cases fault with
      | none => exact absurd rfl hscan
      | some e => exact .pure Bool.false_ne_true

theorem tracks_watchRoots (names watched : List String) (p : Planner) :
    Tracks (·.1.isOk) (p.watchRoots loader.traced names watched) := by
  induction names generalizing watched p with
  | nil => exact .pure rfl
  | cons name rest ih =>
    refine (loader.tracks_find? name).bind_except ?_ fun e => .pure Bool.false_ne_true
    rintro (_ | root)
    · exact ih _ _
    · exact ih _ _

end Planner

theorem tracks_deliver (d : TypeDescriptor) (watched : List String) (p : Planner) :
    Tracks (·.1.isOk) (deliver loader.traced d watched p) := by
  induction watched generalizing p with
  | nil => exact .pure rfl
  | cons root rest ih =>
    unfold deliver
    split
    · exact ih p
    · refine (loader.tracks_isAssignable d root).bind_except ?_ fun e => .pure Bool.false_ne_true
      rintro (_ | _)
      · exact ih p
      · exact (ih _).bind_except_fst (.trivial _) (fun _ _ _ => .pure rfl) fun _ _ =>
          .pure Bool.false_ne_true

theorem tracks_analyze (watched reachable : List String) (p : Planner) :
    Tracks (·.1.isOk) (analyze loader.traced watched reachable p) := by
  induction reachable generalizing p with
  | nil => exact .pure rfl
  | cons name rest ih =>
    refine (loader.tracks_find? name).bind_except ?_ fun e => .pure Bool.false_ne_true
    rintro (_ | d)
    · exact ih _
    · refine (tracks_deliver loader d watched p).bind_except_fst (.trivial _) (fun _ q _ => ?_)
        fun e q => .pure Bool.false_ne_true
      exact (ih q).bind_except_fst (.trivial _) (fun _ _ _ => .pure rfl) fun _ _ =>
        .pure Bool.false_ne_true

/-- Does a run come to its end, the manifest apart? -/
def Finishes {α : Type} (result : Except PlanError α) : Prop :=
  (∃ a, result = .ok a) ∨ ∃ e, result = .error (.manifest e)

theorem finishes_writeManifest (r : Run) : Finishes r.writeManifest.1 := by
  unfold Run.writeManifest
  split
  · exact .inl ⟨(), rfl⟩
  · rcases Manifest.write r.workspace _ _ with ⟨e | _, _, _⟩
    · exact .inr ⟨e, rfl⟩
    · exact .inl ⟨(), rfl⟩

/-- Whether a failure lets a run finish does not depend on what it would have given. -/
theorem finishes_error {α β : Type} {e : PlanError} (h : Finishes (.error e : Except PlanError α)) :
    Finishes (.error e : Except PlanError β) := by
  rcases h with ⟨a, ha⟩ | ⟨cause, hcause⟩
  · cases ha
  · exact .inr ⟨cause, congrArg _ (Except.error.inj hcause)⟩

theorem not_finishes_fault {α : Type} (e : Fault) :
    ¬ Finishes (.error (.fault e) : Except PlanError α) := by
  simp [Finishes]

/-- The planner of a run is in a phase, the run can still list the same files and is to write the
same manifest. -/
structure Ready (p : Planner) (w : Workspace) (phase : Phase) (r : Run) : Prop where
  workspace : r.workspace = w
  scanner : r.planner.scanner = p.scanner
  manifest : r.planner.manifest = p.manifest
  phase : r.planner.phase = some phase

/-- The first phase writes no manifest. -/
theorem ensures_ready_beforeAnalysis (other : Loader (StateM σ)) (classpath : List Path) (r : Run) :
    Loading.Ensures (fun result => Finishes result.1 →
        result.1 = .ok () ∧ Ready r.planner r.workspace .preAnalysis result.2)
      (r.beforeAnalysis other classpath) := by
  unfold Run.beforeAnalysis Planner.enter
  split_ifs with hphase
  · refine (Planner.keeps_watchRoots other _ _ _).bind fun watching hwatching => ?_
    obtain ⟨e | _, watched, p⟩ := watching
    · exact .pure fun h => absurd h (not_finishes_fault e)
    · refine (Planner.keeps_survey other _ _ _ _).bind fun surveyed hsurveyed => ?_
      have hall := hwatching.trans hsurveyed
      obtain ⟨e | _, q⟩ := surveyed
      · exact .pure fun h => absurd h (not_finishes_fault e)
      · exact .pure fun _ => ⟨rfl, rfl, hall.scanner, hall.manifest, hall.phase⟩
  · exact .pure fun h => by simp [Finishes] at h

theorem tracks_or_fails_beforeAnalysis (classpath : List Path) {r : Run}
    (hphase : r.planner.phase = none) :
    (Scan.Walks r.workspace r.planner.scanner classpath →
      Tracks (Finishes ·.1) (r.beforeAnalysis loader.traced classpath)) ∧
    (¬ Scan.Walks r.workspace r.planner.scanner classpath →
      Fails (Finishes ·.1) (r.beforeAnalysis loader.traced classpath)) := by
  let entered : Planner := { r.planner with phase := some .preAnalysis }
  have henter : r.planner.enter .preAnalysis = .ok entered := by
    simp [Planner.enter, hphase, Phase.before?, entered]
  have hkeeps := entered.keeps_watchRoots loader.traced entered.rules.explicitRoots r.watched
  simp only [Run.beforeAnalysis, henter]
  constructor
  · intro hwalks
    refine (Planner.tracks_watchRoots loader _ _ entered).bind_except_fst hkeeps
      (fun _ watching hwatching => ?_) fun e watching => .pure (not_finishes_fault e)
    obtain ⟨watched, p⟩ := watching
    have hp : Scan.Walks r.workspace p.scanner classpath := by rwa [hwatching.scanner]
    refine ((Planner.tracks_or_fails_survey loader _ p).1 hp).bind_except_fst (.trivial _)
      (fun counts q _ => .pure ?_) fun e q => .pure ?_
    · exact .inl ⟨(), rfl⟩
    · exact not_finishes_fault e
  · intro hwalks
    have hlog := loader.traced_corresponds fun _ _ => True
    refine .of_logging (hlog.watchRoots _ _ entered) hkeeps fun watching hwatching => ?_
    obtain ⟨e | _, watched, p⟩ := watching
    · exact .pure (not_finishes_fault e)
    · have hp : ¬ Scan.Walks r.workspace p.scanner classpath := by rwa [hwatching.scanner]
      refine ((Planner.tracks_or_fails_survey loader _ p).2 hp).bind fun surveyed hsurveyed => ?_
      obtain ⟨e | _, q⟩ := surveyed
      · exact .pure (not_finishes_fault e)
      · exact absurd rfl hsurveyed

theorem tracks_afterRegistration {r : Run} (hphase : r.planner.phase = some .preAnalysis)
    (hwalks : Scan.Walks r.workspace r.planner.scanner classpath) :
    Tracks (Finishes ·.1) (r.afterRegistration loader.traced classpath) := by
  let entered : Planner := { r.planner with phase := some .postRegistration }
  have henter : r.planner.enter .postRegistration = .ok entered := by
    simp [Planner.enter, hphase, Phase.before?, entered]
  have hsurvey : Tracks (·.1.isOk)
      (entered.survey r.workspace loader.traced classpath .postRegistration) :=
    (Planner.tracks_or_fails_survey loader _ entered).1 hwalks
  simp only [Run.afterRegistration, henter]
  refine hsurvey.bind_except_fst (.trivial _) (fun counts p _ => .pure ?_) fun e p => .pure ?_
  · exact finishes_writeManifest _
  · exact not_finishes_fault e

/-- A whole run tracks its questions if the files can be listed, and is cut short otherwise. -/
theorem tracks_or_fails_complete (classpath : List Path) (reachable : List String) {r : Run}
    (hphase : r.planner.phase = none) :
    (Scan.Walks r.workspace r.planner.scanner classpath →
      Tracks (Finishes ·.1) (r.complete loader.traced classpath reachable)) ∧
    (¬ Scan.Walks r.workspace r.planner.scanner classpath →
      Fails (Finishes ·.1) (r.complete loader.traced classpath reachable)) := by
  let start : Run := { r with watched := [] }
  have hphase' : start.planner.phase = none := hphase
  have hstart := tracks_or_fails_beforeAnalysis loader classpath hphase'
  have hready := ensures_ready_beforeAnalysis loader.traced classpath start
  refine ⟨fun hwalks => (hstart.1 hwalks).bind (fun s hbefore => ?_) fun s => ?_,
    fun hwalks => (hstart.2 hwalks).bind ?_⟩
  · obtain ⟨hok, hr⟩ := hready s hbefore
    generalize answer (start.beforeAnalysis loader.traced classpath) s = before at hok hr
    obtain ⟨result, r⟩ := before
    obtain rfl : result = .ok () := hok
    refine (tracks_analyze loader r.watched reachable r.planner).bind_except_fst
      (keeps_analyze loader.traced r.watched reachable r.planner) (fun count p hkeeps => ?_)
      fun e p => .pure (not_finishes_fault e)
    have hp : Scan.Walks r.workspace p.scanner classpath := by
      rwa [hkeeps.scanner, hr.workspace, hr.scanner]
    have hafter : Tracks (Finishes ·.1)
        (Run.afterRegistration loader.traced classpath { r with planner := p }) :=
      tracks_afterRegistration loader (hkeeps.phase.trans hr.phase) hp
    refine hafter.bind (fun s hfinishes => ?_) fun s hfinishes => ?_
    · generalize answer (Run.afterRegistration loader.traced classpath { r with planner := p }) s
        = ended at hfinishes
      obtain ⟨e | _, r⟩ := ended
      · exact .pure (finishes_error hfinishes)
      · exact .pure (.inl ⟨count, rfl⟩)
    · generalize answer (Run.afterRegistration loader.traced classpath { r with planner := p }) s
        = ended at hfinishes
      obtain ⟨e | _, r⟩ := ended
      · exact .pure fun h => hfinishes (finishes_error h)
      · exact absurd (.inl ⟨(), rfl⟩) hfinishes
  on_goal 1 => generalize answer (start.beforeAnalysis loader.traced classpath) s = before
  on_goal 2 => intro before
  -- A first phase that was cut short ends the run.
  all_goals
    intro hbefore
    obtain ⟨e | _, r⟩ := before
    · exact .pure fun h => hbefore (finishes_error h)
    · exact absurd (.inl ⟨(), rfl⟩) hbefore

end Plan
end RetentionPlan
