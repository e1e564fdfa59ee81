import Mathlib.Algebra.Ring.Nat
import RetentionPlan.Proofs.Plan.Holdings

/-!
# What the steps of a plan add

For a loader that is a fixed function: what each step of a plan that meets no fault adds to the
holdings of the planner, and what it counts. The last theorem puts a whole run together.
-/
namespace RetentionPlan

open Loading (Loader Fault)
open Plan (Phase Planner Holdings Run)

namespace Loading.Loader

def assigns (loader : Loader Id) (d : TypeDescriptor) (target : String) : Bool :=
  match (loader.isAssignable d target).run with
  | .ok answer => answer
  | .error _ => false

def foundAmong (loader : Loader Id) (names : List String) : List TypeDescriptor :=
  names.filterMap fun name => match (loader.resolve name).run with
    | .ok d => some d
    | .error _ => none

theorem assigns_of_isAssignable {loader : Loader Id} {d : TypeDescriptor} {target : String}
    {answer : Bool} (h : (loader.isAssignable d target).run = .ok answer) :
    loader.assigns d target = answer := by
  simp [assigns, h]

theorem mem_foundAmong {loader : Loader Id} {names : List String} {d : TypeDescriptor} :
    d ∈ loader.foundAmong names ↔ ∃ name ∈ names, (loader.resolve name).run = .ok d := by
  simp only [foundAmong, List.mem_filterMap]
  refine exists_congr fun name => and_congr_right fun _ => ?_
  cases (loader.resolve name).run <;> simp

theorem foundAmong_cons_some {loader : Loader Id} {name : String} {d : TypeDescriptor}
    (h : (loader.find? name).run = .ok (some d)) (names : List String) :
    loader.foundAmong (name :: names) = d :: loader.foundAmong names := by
  simp [foundAmong, resolve_of_find? h]

theorem foundAmong_cons_none {loader : Loader Id} {name : String}
    (h : (loader.find? name).run = .ok none) (names : List String) :
    loader.foundAmong (name :: names) = loader.foundAmong names := by
  simp only [find?, Id.run_bind] at h
  rcases hr : (loader.resolve name).run with (_ | _) | found <;> simp [hr] at h
  simp [foundAmong, hr]

end Loading.Loader

namespace RuleSet

def selected (rules : RuleSet) (loader : Loader Id) (phase : Phase) (d : TypeDescriptor) :
    Option Rule :=
  match phase with
  | .preAnalysis => (rules.explicitRoots.find? (loader.assigns d)).map .explicitRoot
  | .postRegistration =>
    ((rules.attributes.find? d.hasAttribute).map .attributeMarker).or
      ((rules.supertypes.find? (loader.assigns d)).map .supertypeRoot)

theorem find?_of_firstAssignable {loader : Loader Id} {d : TypeDescriptor} {names : List String}
    {first : Option String} (h : (firstAssignable loader d names).run = .ok first) :
    first = names.find? (loader.assigns d) := by
  induction names with
  | nil => simpa [firstAssignable] using h.symm
  | cons name rest ih =>
    simp only [firstAssignable, Id.run_bind] at h
    rcases ha : (loader.isAssignable d name).run with _ | _ | _ <;> simp only [ha] at h
    · simp at h
    · rw [List.find?_cons_of_neg (by simp [Loader.assigns_of_isAssignable ha])]
      exact ih h
    · rw [List.find?_cons_of_pos (by simp [Loader.assigns_of_isAssignable ha])]
      simpa using h.symm

end RuleSet

namespace Plan

def Holdings.ofRoot (d : TypeDescriptor) : Holdings where
  sink := { serialization := {name | d.isConcrete = true ∧ name = d.name} }

def Holdings.ofKept (loader : Loader Id) (refusal : Member → Option String) (injectable : String)
    (phase : Phase) (rule : Rule) (d : TypeDescriptor) : Holdings where
  decisions := {⟨rule.reason, d.name⟩}
  sink := { serialization := {name | phase = .preAnalysis ∧ name = d.name} } ∪
    Registration.Registrations.ofType refusal injectable d (loader.ancestors d).run.items

def Holdings.ofScanned (loader : Loader Id) (p : Planner) (phase : Phase) (d : TypeDescriptor) :
    Holdings :=
  match p.rules.selected loader phase d with
  | none => ∅
  | some rule => ofKept loader p.sink.refusal p.injectable phase rule d

/-- The watched types that a reported one is told for. -/
def toldFor (loader : Loader Id) (watched : List String) (d : TypeDescriptor) : List String :=
  watched.filter fun root => d.name ≠ root && loader.assigns d root

def Holdings.ofReported (loader : Loader Id) (watched : List String) (d : TypeDescriptor) :
    Holdings :=
  let names := {name | toldFor loader watched d ≠ [] ∧ name = d.name}
  { seen := names, sink := { serialization := names } }

namespace Planner

theorem selected_of_ruleFor {loader : Loader Id} {phase : Phase} {rules : RuleSet}
    {d : TypeDescriptor} {rule : Option Rule}
    (h : (ruleFor loader phase rules d).run = .ok rule) :
    rule = rules.selected loader phase d := by
  cases phase with
  | preAnalysis =>
    simp only [ruleFor, RuleSet.matchExplicitRoot, Id.run_bind, Id.run_pure] at h
    cases hf : (RuleSet.firstAssignable loader d rules.explicitRoots).run with
    | error e => simp [hf, Except.map] at h
    | ok first =>
      rw [hf] at h
      rw [RuleSet.selected, ← RuleSet.find?_of_firstAssignable hf]
      simpa [Except.map] using h.symm
  | postRegistration =>
    simp only [ruleFor, RuleSet.matchPostRegistration] at h
    unfold RuleSet.selected
    cases ha : rules.attributes.find? d.hasAttribute with
    | some name => simpa [ha] using h.symm
    | none =>
      simp only [ha, Id.run_bind, Id.run_pure] at h
      cases hf : (RuleSet.firstAssignable loader d rules.supertypes).run with
      | error e => simp [hf, Except.map] at h
      | ok first =>
        rw [hf] at h
        dsimp only
        rw [← RuleSet.find?_of_firstAssignable hf]
        simpa [Except.map] using h.symm

theorem gains_keep {loader : Loader Id} {phase : Phase} {rule : Rule} {d : TypeDescriptor}
    {p q : Planner} (h : (p.keep loader phase rule d).run = (.ok (), q)) :
    p.Gains q (.ofKept loader p.sink.refusal p.injectable phase rule d) := by
  have hannounced := p.gains_announce phase rule d
  let announced := p.announce phase rule d
  let registered := announced.reached.register.addAll announced.injectable d
    (loader.ancestors d).run
  have hkeep : (p.keep loader phase rule d).run =
      (registered.1.map fun _ => (), announced.withRegister registered.2) :=
    rfl
  rw [hkeep] at h
  rcases hr : registered with ⟨_ | n, register⟩ <;> rw [hr] at h
  · simp [Except.map] at h
  · obtain ⟨-, rfl⟩ := Prod.mk.inj h
    have hrefusal : registered.2.sink.refusal = announced.sink.refusal :=
      Registration.Register.refusal_addAll ..
    have hadds : register.sink.registrations = announced.sink.registrations ∪
        .ofType announced.sink.refusal announced.injectable d (loader.ancestors d).run.items :=
      Registration.Register.registrations_addAll hr
    rw [hr] at hrefusal
    have hall := hannounced.trans (gains_withRegister hrefusal hadds)
    rw [hannounced.refusal, hannounced.injectable] at hall
    refine ⟨hall.toKeeps, hall.holdings.trans ?_⟩
    congr 1
    refine Holdings.ext ?_ ?_ ?_ <;> simp [Holdings.ofKept]

/-- What a scanned type adds, only depends on what the planner was given. -/
theorem Gains.ofScanned_eq {p q : Planner} {gain : Holdings} (h : p.Gains q gain)
    (loader : Loader Id) (phase : Phase) :
    Holdings.ofScanned loader q phase = Holdings.ofScanned loader p phase := by
  funext d
  simp only [Holdings.ofScanned, h.rules, h.refusal, h.injectable]

theorem gains_examine {loader : Loader Id} {phase : Phase} {ds : List TypeDescriptor}
    {p q : Planner} {n : Nat} (h : (examine loader phase ds p).run = (.ok n, q)) :
    p.Gains q (.total ds (.ofScanned loader p phase)) := by
  induction ds generalizing p n with
  | nil =>
    obtain ⟨-, rfl⟩ := Prod.mk.inj h
    exact Gains.refl p
  | cons d rest ih =>
    simp only [examine, Id.run_bind] at h
    rcases hrule : (ruleFor loader phase p.rules d).run with _ | _ | rule <;>
      simp only [hrule] at h
    · simp at h
    · have hnone : Holdings.ofScanned loader p phase d = ∅ := by
        simp [Holdings.ofScanned, ← selected_of_ruleFor hrule]
      have hvisit := p.gains_visit phase d
      have hall := hvisit.trans (ih h)
      rwa [hvisit.ofScanned_eq, ← hnone] at hall
    · have hsome : Holdings.ofScanned loader p phase d =
          .ofKept loader p.sink.refusal p.injectable phase rule d := by
        simp [Holdings.ofScanned, ← selected_of_ruleFor hrule]
      rcases hkeep : (p.keep loader phase rule d).run with ⟨_ | _, kept⟩ <;>
        simp only [Id.run_bind, hkeep] at h
      · simp at h
      · have hkept := gains_keep hkeep
        have hvisit := hkept.trans (kept.gains_visit phase d)
        rw [Holdings.union_empty] at hvisit
        rcases hrest : (examine loader phase rest (kept.visit phase d)).run
          with ⟨_ | more, last⟩ <;>
          simp only [hrest, Id.run_pure, Except.map, Prod.mk.injEq, reduceCtorEq, false_and] at h
        obtain ⟨-, rfl⟩ := h
        have hall := hvisit.trans (ih hrest)
        rwa [hvisit.ofScanned_eq, ← hsome] at hall

theorem gains_survey {w : Workspace} {loader : Loader Id} {classpath : List Path} {phase : Phase}
    {p q : Planner} {counts : Nat × Nat}
    (h : (p.survey w loader classpath phase).run = (.ok counts, q)) :
    p.Gains q (.total (Scan.typeUniverse w p.scanner loader classpath).run.1.items
      (.ofScanned loader p phase)) := by
  simp only [survey, Id.run_bind] at h
  rcases hscan : (Scan.typeUniverse w p.scanner loader classpath).run with ⟨found, records⟩
  simp only [hscan] at h
  rcases hexamine : (examine loader phase found.items (p.leave records)).run with ⟨_ | n, last⟩ <;>
    simp only [hexamine] at h
  · simp at h
  · cases hfault : found.fault with
    | some e => simp [hfault] at h
    | none =>
      simp only [hfault, Id.run_pure, Prod.mk.injEq] at h
      obtain ⟨-, rfl⟩ := h
      have hleave := p.gains_leave records
      have hall := hleave.trans (gains_examine hexamine)
      rwa [hleave.ofScanned_eq, Holdings.empty_union] at hall

theorem gains_watchRoots {loader : Loader Id} {names watched watched' : List String}
    {p q : Planner} (h : (p.watchRoots loader names watched).run = (.ok (), watched', q)) :
    watched' = watched ++ (loader.foundAmong names).map (·.name) ∧
      p.Gains q (.total (loader.foundAmong names) .ofRoot) := by
  induction names generalizing watched p with
  | nil =>
    simp only [watchRoots, Id.run_pure, Prod.mk.injEq, true_and] at h
    obtain ⟨rfl, rfl⟩ := h
    exact ⟨by simp [Loader.foundAmong], Gains.refl p⟩
  | cons name rest ih =>
    simp only [watchRoots, Id.run_bind] at h
    rcases hfind : (loader.find? name).run with _ | _ | root <;> simp only [hfind] at h
    · simp at h
    · rw [Loader.foundAmong_cons_none hfind]
      obtain ⟨hwatched, hgains⟩ := ih h
      refine ⟨hwatched, ?_⟩
      simpa using (p.gains_leave _).trans hgains
    · rw [Loader.foundAmong_cons_some hfind]
      obtain ⟨hwatched, hgains⟩ := ih h
      refine ⟨by simp [hwatched], ?_⟩
      have hroot : p.Gains (if root.isConcrete then p.serialize root else p) (.ofRoot root) := by
        cases hc : root.isConcrete with
        | false => simpa [Holdings.ofRoot, hc] using Gains.refl p
        | true => simpa [Holdings.ofRoot, hc] using p.gains_serialize root
      exact hroot.trans hgains

end Planner

theorem Holdings.covered_ofReported (loader : Loader Id) (watched : List String)
    (d : TypeDescriptor) : (ofReported loader watched d).Covered :=
  subset_rfl

theorem Holdings.covered_ofScanned (loader : Loader Id) (p : Planner) (phase : Phase)
    (d : TypeDescriptor) : (ofScanned loader p phase d).Covered := by
  unfold ofScanned
  split <;> exact covered_of_seen_eq_empty rfl

/-- A type that is told for a watched one is seen; being told for the others as well adds
nothing. -/
theorem Holdings.ofReported_cons_of_told {loader : Loader Id} {root : String}
    {watched : List String} {d : TypeDescriptor}
    (h : toldFor loader (root :: watched) d = root :: toldFor loader watched d) :
    ofReported loader (root :: watched) d =
      { seen := {d.name}, sink := { serialization := {d.name} } } ∪
      ofReported loader watched d := by
  refine Holdings.ext ?_ ?_ ?_
  · simp [ofReported]
  · ext name
    simp [ofReported, h]
  · ext name
    · simp [ofReported]
    · simp [ofReported]
    · simp [ofReported]
    · simp [ofReported]
    · simp [ofReported, h]

theorem gains_deliver {loader : Loader Id} {d : TypeDescriptor} {watched : List String}
    {p q : Planner} {n : Nat} (hp : p.holdings.Covered)
    (h : (deliver loader d watched p).run = (.ok n, q)) :
    n = (toldFor loader watched d).length ∧ p.Gains q (.ofReported loader watched d) := by
  induction watched generalizing p n with
  | nil =>
    obtain ⟨hn, rfl⟩ := Prod.mk.inj h
    exact ⟨(Except.ok.inj hn).symm,
      by simpa [Holdings.ofReported, toldFor] using Planner.Gains.refl p⟩
  | cons root rest ih =>
    unfold deliver at h
    by_cases hroot : d.name = root
    · have htold : toldFor loader (root :: rest) d = toldFor loader rest d := by
        simp [toldFor, hroot]
      rw [if_pos hroot] at h
      simpa only [Holdings.ofReported, htold] using ih hp h
    · simp only [if_neg hroot, Id.run_bind] at h
      rcases hassign : (loader.isAssignable d root).run with _ | _ | _ <;> simp only [hassign] at h
      · simp at h
      · have htold : toldFor loader (root :: rest) d = toldFor loader rest d := by
          simp [toldFor, Loader.assigns_of_isAssignable hassign]
        simpa only [Holdings.ofReported, htold] using ih hp h
      · have htold : toldFor loader (root :: rest) d = root :: toldFor loader rest d := by
          simp [toldFor, hroot, Loader.assigns_of_isAssignable hassign]
        have hnote := Planner.gains_note hp d
        have hnoted := hnote.covered hp (Holdings.covered_note d)
        rcases hrest : (deliver loader d rest (p.note d)).run with ⟨_ | more, last⟩ <;>
          simp only [Id.run_bind, hrest, Id.run_pure, Except.map, Prod.mk.injEq, reduceCtorEq,
            false_and, Except.ok.injEq] at h
        obtain ⟨rfl, rfl⟩ := h
        obtain ⟨hmore, hgains⟩ := ih hnoted hrest
        refine ⟨by simp [htold, hmore], ?_⟩
        rw [Holdings.ofReported_cons_of_told htold]
        exact hnote.trans hgains

theorem gains_analyze {loader : Loader Id} {watched reachable : List String} {p q : Planner}
    {n : Nat} (hp : p.holdings.Covered)
    (h : (analyze loader watched reachable p).run = (.ok n, q)) :
    n = ((loader.foundAmong reachable).map fun d => (toldFor loader watched d).length).sum ∧
      p.Gains q (.total (loader.foundAmong reachable) (.ofReported loader watched)) := by
  induction reachable generalizing p n with
  | nil =>
    obtain ⟨hn, rfl⟩ := Prod.mk.inj h
    exact ⟨(Except.ok.inj hn).symm, Planner.Gains.refl p⟩
  | cons name rest ih =>
    simp only [analyze, Id.run_bind] at h
    rcases hfind : (loader.find? name).run with _ | _ | d <;> simp only [hfind] at h
    · simp at h
    · rw [Loader.foundAmong_cons_none hfind]
      have hleave := p.gains_leave
        [⟨.warning, "host", s!"Reachable type {name} is not on the classpath"⟩]
      obtain ⟨hn, hgains⟩ := ih (hleave.covered hp (Holdings.covered_of_seen_eq_empty rfl)) h
      refine ⟨hn, ?_⟩
      simpa using hleave.trans hgains
    · rw [Loader.foundAmong_cons_some hfind]
      rcases hdeliver : (deliver loader d watched p).run with ⟨_ | count, told⟩ <;>
        simp only [Id.run_bind, hdeliver] at h
      · simp at h
      · obtain ⟨hcount, hgains⟩ := gains_deliver hp hdeliver
        have htold := hgains.covered hp (Holdings.covered_ofReported loader watched d)
        rcases hrest : (analyze loader watched rest told).run with ⟨_ | more, last⟩ <;>
          simp only [hrest, Id.run_pure, Except.map, Prod.mk.injEq, reduceCtorEq, false_and,
            Except.ok.injEq] at h
        obtain ⟨rfl, rfl⟩ := h
        obtain ⟨hmore, hlast⟩ := ih htold hrest
        exact ⟨by simp [hcount, hmore], hgains.trans hlast⟩

theorem gains_beforeAnalysis {loader : Loader Id} {classpath : List Path} {r r' : Run}
    (h : (r.beforeAnalysis loader classpath).run = (.ok (), r')) :
    r'.workspace = r.workspace ∧
      r'.watched = r.watched ++ (loader.foundAmong r.planner.rules.explicitRoots).map (·.name) ∧
      { r.planner with phase := some .preAnalysis }.Gains r'.planner
        (.total (loader.foundAmong r.planner.rules.explicitRoots) .ofRoot ∪
          .total (Scan.typeUniverse r.workspace r.planner.scanner loader classpath).run.1.items
            (.ofScanned loader r.planner .preAnalysis)) := by
  unfold Run.beforeAnalysis Planner.enter at h
  split_ifs at h with hphase
  · simp only [Id.run_bind] at h
    rcases hroots : (Planner.watchRoots loader r.planner.rules.explicitRoots r.watched
      { r.planner with phase := some .preAnalysis }).run with ⟨_ | _, watched, p⟩ <;>
      simp only [hroots] at h
    · simp at h
    · obtain ⟨rfl, hwatching⟩ := Planner.gains_watchRoots hroots
      rcases hsurvey : (p.survey r.workspace loader classpath .preAnalysis).run with
        ⟨_ | ⟨scanned, matched⟩, q⟩ <;> simp only [Id.run_bind, hsurvey] at h
      · simp at h
      · obtain ⟨-, rfl⟩ := Prod.mk.inj h
        have hscanned := Planner.gains_survey hsurvey
        rw [hwatching.scanner, hwatching.ofScanned_eq] at hscanned
        exact ⟨rfl, rfl, (hwatching.trans hscanned).leave _⟩
  · simp at h

/-- Writing the manifest only leaves records. -/
theorem gains_writeManifest {r r' : Run} {result : Except PlanError Unit}
    (h : r.writeManifest = (result, r')) : r.planner.Gains r'.planner ∅ := by
  unfold Run.writeManifest at h
  split at h
  · obtain ⟨-, rfl⟩ := Prod.mk.inj h
    exact .refl _
  · obtain ⟨-, rfl⟩ := Prod.mk.inj h
    exact r.planner.gains_leave _

theorem gains_afterRegistration {loader : Loader Id} {classpath : List Path} {r r' : Run}
    (h : (r.afterRegistration loader classpath).run = (.ok (), r')) :
    { r.planner with phase := some .postRegistration }.Gains r'.planner
      (.total (Scan.typeUniverse r.workspace r.planner.scanner loader classpath).run.1.items
        (.ofScanned loader r.planner .postRegistration)) := by
  unfold Run.afterRegistration Planner.enter at h
  split_ifs at h with hphase
  · simp only [Id.run_bind] at h
    rcases hsurvey : (Planner.survey r.workspace loader classpath .postRegistration
      { r.planner with phase := some .postRegistration }).run with
      ⟨_ | ⟨scanned, matched⟩, q⟩ <;> simp only [hsurvey] at h
    · simp at h
    · have hscanned := Planner.gains_survey hsurvey
      have hall := (hscanned.leave _).trans (gains_writeManifest h)
      rwa [Holdings.union_empty] at hall
  · simp at h

/-- What a whole run adds: the roots, the types scanned before the analysis, the reported types and
the types scanned after it. -/
def Holdings.ofRun (loader : Loader Id) (p : Planner) (scanned : List TypeDescriptor)
    (reachable : List String) : Holdings :=
  let roots := loader.foundAmong p.rules.explicitRoots
  total roots ofRoot ∪ total scanned (ofScanned loader p .preAnalysis) ∪
    total (loader.foundAmong reachable) (ofReported loader (roots.map (·.name))) ∪
    total scanned (ofScanned loader p .postRegistration)

/-- A run that ends well has gone through its three parts. -/
theorem parts_of_complete {loader : Loader Id} {classpath : List Path} {reachable : List String}
    {r r' : Run} {n : Nat} (h : (r.complete loader classpath reachable).run = (.ok n, r')) :
    ∃ before told, (Run.beforeAnalysis loader classpath { r with watched := [] }).run =
      (.ok (), before) ∧
      (analyze loader before.watched reachable before.planner).run = (.ok n, told) ∧
      (Run.afterRegistration loader classpath { before with planner := told }).run =
        (.ok (), r') := by
  simp only [Run.complete, Id.run_bind] at h
  rcases hbefore : (Run.beforeAnalysis loader classpath { r with watched := [] }).run with
    ⟨_ | _, before⟩ <;> simp only [hbefore] at h
  · simp at h
  rcases hanalyze : (analyze loader before.watched reachable before.planner).run with
    ⟨_ | count, told⟩ <;> simp only [Id.run_bind, hanalyze] at h
  · simp at h
  rcases hafter : (Run.afterRegistration loader classpath { before with planner := told }).run with
    ⟨_ | _, after⟩ <;> simp only [hafter] at h
  · simp at h
  obtain ⟨hn, rfl⟩ := Prod.mk.inj h
  exact ⟨before, told, rfl, hanalyze.trans (by rw [Except.ok.inj hn]), hafter⟩

theorem holdings_complete {loader : Loader Id} {classpath : List Path} {reachable : List String}
    {r r' : Run} {n : Nat} (hr : r.planner.holdings.Covered)
    (h : (r.complete loader classpath reachable).run = (.ok n, r')) :
    n = ((loader.foundAmong reachable).map fun d =>
        (toldFor loader ((loader.foundAmong r.planner.rules.explicitRoots).map (·.name))
          d).length).sum ∧ r'.planner.holdings = r.planner.holdings ∪ .ofRun loader r.planner
        (Scan.typeUniverse r.workspace r.planner.scanner loader classpath).run.1.items
          reachable := by
  obtain ⟨before, told, hbefore, hanalyze, hafter⟩ := parts_of_complete h
  obtain ⟨hworkspace, hwatched, hroots⟩ := gains_beforeAnalysis hbefore
  rw [List.nil_append] at hwatched
  have hcovered : before.planner.holdings.Covered := by
    refine hroots.covered hr (.union ?_ ?_)
    · exact Holdings.covered_total fun _ => Holdings.covered_of_seen_eq_empty rfl
    · exact Holdings.covered_total (Holdings.covered_ofScanned loader _ _)
  obtain ⟨hcount, htold⟩ := gains_analyze hcovered hanalyze
  rw [hwatched] at hcount htold
  refine ⟨hcount, ?_⟩
  have hmiddle := hroots.trans htold
  have hlast := gains_afterRegistration hafter
  rw [hworkspace, hmiddle.scanner, hmiddle.ofScanned_eq] at hlast
  calc r'.planner.holdings
      = told.holdings ∪ _ := hlast.holdings
    _ = r.planner.holdings ∪ _ ∪ _ := by rw [hmiddle.holdings]; rfl
    _ = r.planner.holdings ∪ .ofRun loader r.planner _ reachable := by
        rw [Holdings.union_assoc]; rfl

end Plan
end RetentionPlan
