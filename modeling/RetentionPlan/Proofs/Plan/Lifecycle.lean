import RetentionPlan.Proofs.Plan.Exactness
import RetentionPlan.Proofs.Plan.Faults

/-!
# The life of a planner

Hosts may call a planner for its phases in any order and again after a call that failed, report
types to it at any time, and work on other files from one call to the next. A step of such a life
adds to what the planner holds, and keeps what its registrations and decisions have to do with each
other.
-/
namespace RetentionPlan.Plan

open Loading (Loader Ensures answer)
open Registration (bulkCategories)

/-- What a host brings along for a call: a loader with effects of its own, and a classpath. -/
structure Host : Type 1 where
  State : Type
  loader : Loader (StateM State)
  state : State
  classpath : List Path

def Host.call (host : Host) (phase : Phase) (r : Run) : Except PlanError Unit × Run :=
  match phase with
  | .preAnalysis => answer (r.beforeAnalysis host.loader host.classpath) host.state
  | .postRegistration => answer (r.afterRegistration host.loader host.classpath) host.state

inductive Event : Type 1 where
  | call (host : Host) (phase : Phase)
  /-- The analysis reports that a type became reachable. -/
  | report (d : TypeDescriptor)
  /-- Files come, go or change. -/
  | change (w : Workspace)

structure Life where
  run : Run
  /-- The phases that were entered, in order. -/
  entered : List Phase := []
  /-- The decisions that were new when a phase recorded them. -/
  recorded : Phase → Set Decision := fun _ => ∅

namespace Life

/-- The history after a call that has entered a phase. -/
def enter (l : Life) (phase : Phase) (after : Run) : Life where
  run := after
  entered := l.entered ++ [phase]
  recorded other := l.recorded other ∪
    {x | other = phase ∧ x ∈ after.planner.decisions ∧ x ∉ l.run.planner.decisions}

/-- The history after a call that ended in this way. If it was rejected it has entered no phase. -/
def call (l : Life) (phase : Phase) : Except PlanError Unit × Run → Life
  | (.error (.phase _ _), after) => { l with run := after }
  | (_, after) => l.enter phase after

def meet (l : Life) : Event → Life
  | .call host phase => l.call phase (host.call phase l.run)
  | .report d => { l with run := { l.run with planner := l.run.planner.note d } }
  | .change w => { l with run := { l.run with workspace := w } }

/-- The history after events, one after the other. -/
def live (l : Life) (events : List Event) : Life := events.foldl meet l

end Life

/-- How a call for a phase can go: it is rejected and changes nothing, or it enters the phase and
then adds what this phase can add, whatever ends it. -/
inductive Host.Called (phase : Phase) (r : Run) : Except PlanError Unit × Run → Prop where
  | rejected (h : r.planner.phase ≠ phase.before?) :
    Called phase r (.error (.phase phase r.planner.phase), r)
  | entered (h : r.planner.phase = phase.before?) {result : Except PlanError Unit} {after : Run}
    (hresult : ∀ wanted place, result ≠ .error (.phase wanted place)) {names : List String}
    (hgrows : { r.planner with phase := some phase }.Grows phase names after.planner) :
    Called phase r (result, after)

section
variable {σ : Type} (loader : Loader (StateM σ)) (classpath : List Path) (r : Run)

theorem called_beforeAnalysis :
    Ensures (Host.Called .preAnalysis r) (r.beforeAnalysis loader classpath) := by
  unfold Run.beforeAnalysis Planner.enter
  split_ifs with hphase
  · refine (Planner.grows_watchRoots loader .preAnalysis _ _ _).bind fun watching hwatching => ?_
    obtain ⟨e | _, watched, p⟩ := watching
    · exact .pure (.entered hphase (by simp) hwatching)
    · refine (Planner.grows_survey loader _ _ _ p).bind fun surveyed hsurveyed => ?_
      obtain ⟨names, hsurveyed⟩ := hsurveyed
      have hall := hwatching.trans_idle hsurveyed
      obtain ⟨e | _, q⟩ := surveyed
      · exact .pure (.entered hphase (by simp) hall)
      · exact .pure (.entered hphase (by simp) (hall.leave _))
  · exact .pure (.rejected hphase)

/-- Writing the manifest only leaves records, and is never rejected. -/
theorem written_writeManifest (r : Run) :
    (∀ wanted place, r.writeManifest.1 ≠ .error (.phase wanted place)) ∧
      r.planner.Gains r.writeManifest.2.planner ∅ := by
  refine ⟨fun wanted place h => ?_, gains_writeManifest rfl⟩
  rcases finishes_writeManifest r with ⟨_, hok⟩ | ⟨_, hmanifest⟩
  · simp [hok] at h
  · simp [hmanifest] at h

theorem called_afterRegistration :
    Ensures (Host.Called .postRegistration r) (r.afterRegistration loader classpath) := by
  unfold Run.afterRegistration Planner.enter
  split_ifs with hphase
  · refine (Planner.grows_survey loader _ _ _ _).bind fun surveyed hsurveyed => ?_
    obtain ⟨names, hsurveyed⟩ := hsurveyed
    obtain ⟨e | _, q⟩ := surveyed
    · exact .pure (.entered hphase (by simp) hsurveyed)
    · obtain ⟨hresult, hwritten⟩ := written_writeManifest _
      exact .pure (.entered hphase hresult ((hsurveyed.leave _).trans_gains hwritten
        Holdings.balanced_empty rfl))
  · exact .pure (.rejected hphase)

end

theorem Host.called (host : Host) (phase : Phase) (r : Run) :
    Called phase r (host.call phase r) := by
  cases phase with
  | preAnalysis => exact called_beforeAnalysis host.loader host.classpath r host.state
  | postRegistration => exact called_afterRegistration host.loader host.classpath r host.state

namespace Life
variable {rules : RuleSet} {l : Life} {phase : Phase} {after : Run}

/-- What holds at every time in the life of a planner with the given rules. -/
structure Sound (rules : RuleSet) (l : Life) : Prop where
  phase : l.run.planner.phase = l.entered.getLast?
  entered : l.entered <+: [.preAnalysis, .postRegistration]
  given : l.run.planner.rules = rules
  balanced : l.run.planner.holdings.Balanced
  decisions : ∀ x, x ∈ l.run.planner.decisions ↔ ∃ phase, x ∈ l.recorded phase
  unique : ∀ phase, ∀ x ∈ l.recorded phase, ∀ y ∈ l.recorded phase, x.type = y.type → x = y
  reasons : ∀ phase, ∀ x ∈ l.recorded phase, x.reason ∈ rules.reasons phase
  serialized : ∀ x ∈ l.recorded .preAnalysis, x.type ∈ l.run.planner.sink.serialization
  /-- A phase that was not entered has recorded nothing. -/
  idle : ∀ phase ∉ l.entered, l.recorded phase = ∅

theorem sound_new {r : Run} (hphase : r.planner.phase = none) (hfresh : r.planner.holdings = ∅) :
    Sound r.planner.rules { run := r } where
  phase := hphase
  entered := List.nil_prefix
  given := rfl
  balanced := by rw [hfresh]; exact Holdings.balanced_empty
  decisions x := by
    have hnone : x ∉ r.planner.holdings.decisions := by simp [hfresh]
    exact ⟨fun hx => absurd hx hnone, by simp⟩
  unique := by simp
  reasons := by simp
  serialized := by simp
  idle _ _ := rfl

/-- A phase that may be entered has not been entered before, and comes next in order. -/
theorem next_phase {phases : List Phase} (horder : phases <+: [.preAnalysis, .postRegistration])
    (hnext : phases.getLast? = phase.before?) :
    phase ∉ phases ∧ phases ++ [phase] <+: [.preAnalysis, .postRegistration] := by
  revert hnext
  rcases List.prefix_cons_iff.mp horder with rfl | ⟨others, rfl, hothers⟩
  · cases phase <;> decide
  · rcases List.prefix_cons_iff.mp hothers with rfl | ⟨rest, rfl, hrest⟩
    · cases phase <;> decide
    · obtain rfl := List.prefix_nil.mp hrest
      cases phase <;> decide

/-- The first entrance of a phase keeps a life sound, for all that the phase may have added. -/
theorem Sound.enter (h : l.Sound rules) (hphase : l.run.planner.phase = phase.before?)
    {names : List String}
    (hgrows : { l.run.planner with phase := some phase }.Grows phase names after.planner) :
    (l.enter phase after).Sound rules := by
  obtain ⟨hfirst, horder⟩ := next_phase h.entered (h.phase ▸ hphase)
  obtain ⟨gain, hgains, hgain⟩ := hgrows
  have hreasons : ∀ x ∈ gain.decisions, x.reason ∈ rules.reasons phase := h.given ▸ hgain.reasons
  have hheld : after.planner.holdings = l.run.planner.holdings ∪ gain := hgains.holdings
  have hdecisions : ∀ x, x ∈ after.planner.decisions ↔
      x ∈ l.run.planner.decisions ∨ x ∈ gain.decisions :=
    fun x => Set.ext_iff.mp (congrArg Holdings.decisions hheld) x
  have hserialization : ∀ name, name ∈ after.planner.sink.serialization ↔
      name ∈ l.run.planner.sink.serialization ∨ name ∈ gain.sink.serialization :=
    fun name => Set.ext_iff.mp (congrArg (fun held => held.sink.serialization) hheld) name
  -- what the phase has recorded is new, so it is of the gain; what others have recorded is as it
  -- was
  have hrecorded : ∀ other, ∀ x ∈ (l.enter phase after).recorded other,
      x ∈ l.recorded other ∧ other ≠ phase ∨ x ∈ gain.decisions ∧ other = phase := by
    rintro other x (hx | ⟨rfl, hx, hnew⟩)
    · refine .inl ⟨hx, ?_⟩
      rintro rfl
      exact absurd hx (by simp [h.idle other hfirst])
    · exact .inr ⟨((hdecisions x).mp hx).resolve_left hnew, rfl⟩
  constructor
  case phase => simpa [Life.enter] using hgains.phase
  case entered => exact horder
  case given => exact hgains.rules.trans h.given
  case balanced => exact hheld ▸ h.balanced.union hgain.toBalanced
  case decisions =>
    intro x
    constructor
    · intro hx
      by_cases hold : x ∈ l.run.planner.decisions
      · obtain ⟨earlier, hearlier⟩ := (h.decisions x).mp hold
        exact ⟨earlier, .inl hearlier⟩
      · exact ⟨phase, .inr ⟨rfl, hx, hold⟩⟩
    · rintro ⟨other, hx | ⟨-, hx, -⟩⟩
      · exact (hdecisions x).mpr (.inl ((h.decisions x).mpr ⟨other, hx⟩))
      · exact hx
  case unique =>
    intro other x hx y hy hxy
    rcases hrecorded other x hx with ⟨hx, hother⟩ | ⟨hx, hphase⟩
    · have hy := (hrecorded other y hy).resolve_right fun hy => hother hy.2
      exact h.unique other x hx y hy.1 hxy
    · have hy := (hrecorded other y hy).resolve_left fun hy => hy.2 hphase
      exact hgain.unique x hx y hy.1 hxy
  case reasons =>
    intro other x hx
    rcases hrecorded other x hx with ⟨hold, -⟩ | ⟨hnew, rfl⟩
    · exact h.reasons other x hold
    · exact hreasons x hnew
  case serialized =>
    intro x hx
    rcases hrecorded .preAnalysis x hx with ⟨hx, -⟩ | ⟨hx, hphase⟩
    · exact (hserialization x.type).mpr (.inl (h.serialized x hx))
    · exact (hserialization x.type).mpr (.inr (hgain.serialized hphase.symm x hx))
  case idle =>
    intro other hother
    rw [Life.enter, List.mem_append, List.mem_singleton, not_or] at hother
    refine Set.eq_empty_of_forall_notMem fun x hx => ?_
    rcases hrecorded other x hx with ⟨hx, -⟩ | ⟨-, hphase⟩
    · exact absurd hx (by simp [h.idle other hother.1])
    · exact hother.2 hphase

theorem meet_call (l : Life) (host : Host) (phase : Phase) :
    l.meet (.call host phase) = l ∨
      ∃ after names, l.meet (.call host phase) = l.enter phase after ∧
        l.run.planner.phase = phase.before? ∧
        { l.run.planner with phase := some phase }.Grows phase names after.planner := by
  have hcalled := host.called phase l.run
  simp only [meet]
  generalize host.call phase l.run = ended at hcalled ⊢
  cases hcalled with
  | rejected => exact .inl rfl
  | @entered hphase result after hresult names hgrows =>
    refine .inr ⟨after, names, ?_, hphase, hgrows⟩
    rcases result with (⟨wanted, place⟩ | cause | cause) | _
    · exact absurd rfl (hresult wanted place)
    · rfl
    · rfl
    · rfl

theorem gains_meet (h : l.Sound rules) (e : Event) :
    ∃ gain, (l.meet e).run.planner.holdings = l.run.planner.holdings ∪ gain := by
  cases e with
  | report d => exact ⟨_, (Planner.gains_note h.balanced.seen d).holdings⟩
  | change w => exact ⟨∅, (Holdings.union_empty l.run.planner.holdings).symm⟩
  | call host phase =>
    rcases l.meet_call host phase with hmeet | ⟨after, names, hmeet, -, gain, hgains, -⟩ <;>
      rw [hmeet]
    · exact ⟨∅, (Holdings.union_empty l.run.planner.holdings).symm⟩
    · exact ⟨gain, hgains.holdings⟩

theorem Sound.meet (h : l.Sound rules) (e : Event) : (l.meet e).Sound rules := by
  cases e with
  | report d =>
    have hheld := (Planner.gains_note h.balanced.seen d).holdings
    have hnoted : Holdings.Balanced
        { seen := {d.name}, sink := { serialization := {d.name} } } := by
      constructor <;> simp
    have hserialization : l.run.planner.sink.registrations.serialization ⊆
        (l.run.planner.note d).sink.registrations.serialization := by
      have hsets := congrArg (fun held => held.sink.serialization) hheld
      exact hsets ▸ Set.subset_union_left
    exact { h with
      balanced := hheld ▸ h.balanced.union hnoted
      serialized := fun x hx => hserialization (h.serialized x hx) }
  | change w => exact { h with }
  | call host phase =>
    rcases l.meet_call host phase with hmeet | ⟨after, names, hmeet, hphase, hgrows⟩ <;> rw [hmeet]
    · exact h
    · exact h.enter hphase hgrows

/-- A sound life stays sound, whatever happens in it. -/
theorem Sound.live (h : l.Sound rules) (events : List Event) : (l.live events).Sound rules := by
  induction events generalizing l with
  | nil => exact h
  | cons e rest ih => exact ih (h.meet e)

theorem gains_live (h : l.Sound rules) (events : List Event) :
    ∃ gain, (l.live events).run.planner.holdings = l.run.planner.holdings ∪ gain := by
  induction events generalizing l with
  | nil => exact ⟨∅, (Holdings.union_empty _).symm⟩
  | cons e rest ih =>
    obtain ⟨first, hfirst⟩ := gains_meet h e
    obtain ⟨others, hothers⟩ := ih (h.meet e)
    exact ⟨first ∪ others,
      by rw [live, List.foldl_cons, ← live, hothers, hfirst, Holdings.union_assoc]⟩

/-- Three different items do not go into two places for one item each. -/
theorem length_le_two {α : Type} {as : List α} (place : Phase → Set α) (hnodup : as.Nodup)
    (hplace : ∀ a ∈ as, ∃ phase, a ∈ place phase)
    (hone : ∀ phase, ∀ a ∈ as, ∀ b ∈ as, a ∈ place phase → b ∈ place phase → a = b) :
    as.length ≤ 2 := by
  match as with
  | [] => simp
  | [_] => simp
  | [_, _] => simp
  | a :: b :: c :: rest =>
    exfalso
    -- two of the three are in the same place
    have hab : a ≠ b := by grind
    have hac : a ≠ c := by grind
    have hbc : b ≠ c := by grind
    obtain ⟨first, hfirst⟩ := hplace a (by simp)
    obtain ⟨second, hsecond⟩ := hplace b (by simp)
    obtain ⟨third, hthird⟩ := hplace c (by simp)
    cases first <;> cases second <;> cases third <;> grind

/-- There are at most two decisions for one type, since each phase records at most one. -/
theorem Sound.length_decisions_le (h : l.Sound rules) (name : String) :
    (l.run.planner.decisions.toList.filter (·.type = name)).length ≤ 2 := by
  refine length_le_two l.recorded (l.run.planner.decisions.nodup.filter _) ?_ ?_
  · intro x hx
    exact (h.decisions x).mp (List.mem_filter.mp hx).1
  · intro phase x hx y hy hxphase hyphase
    have hxname : x.type = name := by simpa using (List.mem_filter.mp hx).2
    have hyname : y.type = name := by simpa using (List.mem_filter.mp hy).2
    exact h.unique phase x hxphase y hyphase (hxname.trans hyname.symm)

end Life

/-- What holds in every state that a planner with an empty sink can come into: by calls for its
phases in any order, with loaders of any kind and however they end, by reports of types, and by
changes of the files. The phases are entered in order: a call for the next one is not rejected, and
any other call is and changes nothing. Just the types of the decisions are registered, with all
categories. Each phase has recorded at most one decision for a type, whose reason is one of its own
rules, and these are all decisions. Types decided on before the analysis and types seen are
registered for serialization, and invocable members are registered as members. And whatever happens
next, nothing of this is lost. -/
theorem planner_sound {w : Workspace} {p : Planner} (hphase : p.phase = none)
    (hfresh : p.holdings = ∅) (events : List Event) :
    let l := Life.live { run := { workspace := w, planner := p } } events
    let q := l.run.planner
    (l.entered <+: [.preAnalysis, .postRegistration] ∧ q.phase = l.entered.getLast? ∧
      ∀ (host : Host) (phase : Phase),
        (q.phase ≠ phase.before? → host.call phase l.run = (.error (.phase phase q.phase), l.run)) ∧
        (q.phase = phase.before? →
          ∀ wanted place, (host.call phase l.run).1 ≠ .error (.phase wanted place))) ∧
    ((∀ name, name ∈ q.sink.types ↔ ∃ x ∈ q.decisions, x.type = name) ∧
      ∀ name category, (name, category) ∈ q.sink.categories ↔
        name ∈ q.sink.types ∧ category ∈ bulkCategories) ∧
    ((∀ x, x ∈ q.decisions ↔ x ∈ l.recorded .preAnalysis ∨ x ∈ l.recorded .postRegistration) ∧
      (∀ phase, ∀ x ∈ l.recorded phase, ∀ y ∈ l.recorded phase, x.type = y.type → x = y) ∧
      (∀ name, (q.decisions.toList.filter (·.type = name)).length ≤ 2) ∧
      (∀ x ∈ l.recorded .preAnalysis, x.reason ∈ p.rules.explicitRoots) ∧
      ∀ x ∈ l.recorded .postRegistration, x.reason ∈ p.rules.attributes ∨
      x.reason ∈ p.rules.supertypes) ∧
    ((∀ x ∈ l.recorded .preAnalysis, x.type ∈ q.sink.serialization) ∧
      ∀ name ∈ q.reached.seen, name ∈ q.sink.serialization) ∧
    (∀ name ∈ q.sink.invocable, name ∈ q.sink.members) ∧
    ∀ more, ∃ gain, (l.live more).run.planner.holdings = q.holdings ∪ gain := by
  intro l q
  -- All but the rejection of calls is read off what is sound after every event.
  have hsound : l.Sound p.rules :=
    (Life.sound_new (r := { workspace := w, planner := p }) hphase hfresh).live events
  refine ⟨⟨hsound.entered, hsound.phase, ?_⟩, ⟨hsound.balanced.types, fun name category =>
    hsound.balanced.categories (name, category)⟩,
      ⟨?_, hsound.unique, hsound.length_decisions_le, ?_, ?_⟩,
    ⟨hsound.serialized, fun name hname => hsound.balanced.seen hname⟩,
    fun name hname => hsound.balanced.invocable hname, fun more => Life.gains_live hsound more⟩
  · intro host phase
    have hcalled := host.called phase l.run
    generalize host.call phase l.run = ended at hcalled ⊢
    cases hcalled with
    | rejected hphase => exact ⟨fun _ => rfl, fun hnext => absurd hnext hphase⟩
    | entered hphase hresult => exact ⟨fun hother => absurd hphase hother, fun _ => hresult⟩
  · intro x
    rw [hsound.decisions]
    constructor
    · rintro ⟨_ | _, hx⟩
      · exact .inl hx
      · exact .inr hx
    · rintro (hx | hx)
      · exact ⟨_, hx⟩
      · exact ⟨_, hx⟩
  · exact hsound.reasons .preAnalysis
  · intro x hx
    exact List.mem_append.mp (hsound.reasons .postRegistration x hx)

/-- A host in the zoo whose loader answers only so many questions for names. -/
def zooHost (questions : Nat) : Host where
  State := Nat
  loader :=
    { resolve := fun name left => match left with
        | 0 => (.error (.fault .endlessReexport), 0)
        | left + 1 => (zoo.loader.resolve name, left)
      declaredTypes := fun path root => return zoo.loader.declaredTypes path root
      supertypeCount := return zoo.supertypeCount }
  state := questions
  classpath := [⟨.root, ["zoo.py"]⟩]

/-- A sink that refuses the dog's members. -/
def pickySink : Registration.Sink where
  refusal member := if member.declaringType == "zoo.Dog" then some "No dogs" else none

def pickyKeeper : Planner := { zooKeeper with reached := { register := { sink := pickySink } } }

/-- Calls in the wrong order, calls that fail, a report and other files. -/
def zooEvents : List Event :=
  [.call (zooHost 100) .postRegistration, .report { name := "zoo.Dog", module := "zoo" },
    .call (zooHost 7) .preAnalysis, .call (zooHost 100) .preAnalysis,
    .change ⟨.directory [("zoo.py", .file .empty 0), ("notes", .file .empty 0)], [], none, 0⟩,
    .call (zooHost 100) .postRegistration, .call (zooHost 100) .postRegistration]

def zooLife : Life :=
  Life.live { run := { workspace := zooFiles, planner := pickyKeeper } } zooEvents

/-- The first phase gave up after the dog, which then was kept for its attribute as well. -/
theorem planner_sound_zoo :
    pickyKeeper.phase = none ∧ pickyKeeper.holdings = ∅ ∧
    ((zooHost 7).call .preAnalysis { workspace := zooFiles, planner := pickyKeeper }).1 =
      .error (.fault .endlessReexport) ∧
    zooLife.entered = [.preAnalysis, .postRegistration] ∧
    (zooLife.run.planner.decisions.toList.filter (·.type = "zoo.Dog")).length = 2 ∧
    "zoo.Dog" ∈ zooLife.run.planner.sink.types ∧
    ("zoo.Dog", "fields") ∈ zooLife.run.planner.sink.categories ∧
    "zoo.Dog" ∈ zooLife.run.planner.sink.serialization ∧
    ((zooHost 100).call .preAnalysis zooLife.run).2 = zooLife.run := by
  have hfresh : pickyKeeper.holdings = ∅ := by
    refine Holdings.ext ?_ ?_ (Registration.Registrations.ext ?_ ?_ ?_ ?_ ?_) <;>
      exact Set.eq_empty_of_forall_notMem Distinct.not_mem_empty
  obtain ⟨⟨-, -, hcalls⟩, ⟨htypes, hcategories⟩, -, ⟨-, hseen⟩, -, -⟩ :=
    planner_sound (w := zooFiles) (p := pickyKeeper) rfl hfresh zooEvents
  have hdog : "zoo.Dog" ∈ zooLife.run.planner.sink.types :=
    (htypes "zoo.Dog").mpr ⟨⟨"keep", "zoo.Dog"⟩, by decide +kernel, rfl⟩
  refine ⟨rfl, hfresh, by decide +kernel, by decide +kernel, by decide +kernel, hdog, ?_, ?_, ?_⟩
  · exact (hcategories "zoo.Dog" "fields").mpr ⟨hdog, by decide⟩
  · exact hseen "zoo.Dog" (by decide +kernel)
  · exact congrArg Prod.snd ((hcalls (zooHost 100) .preAnalysis).1 (by decide +kernel))

end RetentionPlan.Plan
