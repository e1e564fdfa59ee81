import RetentionPlan.Proofs.Loading.Correspondence
import RetentionPlan.Proofs.Plan.Accounting

/-!
# How a planner grows

Whatever a loader answers and wherever a step ends, the planner only gains, and its registrations
stay in balance with its decisions. In one phase it decides at most once on each type, for a reason
of that phase.
-/
namespace RetentionPlan

open Loading (Loader Ensures Fault)

theorem Scan.nodup_names_typeUniverse {σ : Type} (w : Workspace) (scanner : Scanner)
    (loader : Loader (StateM σ)) (classpath : List Path) :
    Ensures (fun scan => (scan.1.items.map (·.name)).Nodup)
      (typeUniverse w scanner loader classpath) := by
  unfold typeUniverse
  split
  · exact .pure List.nodup_nil
  · split
    · exact .pure List.nodup_nil
    · dsimp only
      split
      · exact .pure List.nodup_nil
      · exact .bind_any fun described => .pure (nodup_names_collect [] described).1

/-- The names that a decision of a phase can give as its reason. -/
def RuleSet.reasons (rules : RuleSet) : Plan.Phase → List String
  | .preAnalysis => rules.explicitRoots
  | .postRegistration => rules.attributes ++ rules.supertypes

namespace Plan

open Registration (Registrations bulkCategories)

namespace Holdings

/-- Are just the types of the decisions registered, with all categories, are invocable members
registered as members, and types seen for serialization? -/
structure Balanced (h : Holdings) : Prop where
  types : ∀ name, name ∈ h.sink.types ↔ ∃ x ∈ h.decisions, x.type = name
  categories : ∀ c, c ∈ h.sink.categories ↔ c.1 ∈ h.sink.types ∧ c.2 ∈ bulkCategories
  invocable : h.sink.invocable ⊆ h.sink.members
  seen : h.seen ⊆ h.sink.serialization

/-- Is this what a phase can add that decides on types of the given names? -/
structure OfPhase (phase : Phase) (rules : RuleSet) (names : List String) (h : Holdings) : Prop
    extends h.Balanced where
  named : ∀ x ∈ h.decisions, x.type ∈ names
  unique : ∀ x ∈ h.decisions, ∀ y ∈ h.decisions, x.type = y.type → x = y
  reasons : ∀ x ∈ h.decisions, x.reason ∈ rules.reasons phase
  serialized : phase = .preAnalysis → ∀ x ∈ h.decisions, x.type ∈ h.sink.serialization

variable {phase : Phase} {rules : RuleSet} {names more : List String} {a b : Holdings}

theorem balanced_empty : (∅ : Holdings).Balanced := by
  constructor <;> simp

theorem Balanced.union (ha : a.Balanced) (hb : b.Balanced) : (a ∪ b).Balanced where
  types name := by
    simp only [sink_union, Registrations.types_union, decisions_union, Set.mem_union, ha.types,
      hb.types, or_and_right, exists_or]
  categories c := by
    simp only [sink_union, Registrations.types_union, Registrations.categories_union, Set.mem_union,
      ha.categories, hb.categories, or_and_right]
  invocable := Set.union_subset_union ha.invocable hb.invocable
  seen := Set.union_subset_union ha.seen hb.seen

theorem Balanced.ofPhase (h : a.Balanced) (hnone : a.decisions = ∅) :
    a.OfPhase phase rules names where
  toBalanced := h
  named := by simp [hnone]
  unique := by simp [hnone]
  reasons := by simp [hnone]
  serialized := by simp [hnone]

theorem OfPhase.mono (h : a.OfPhase phase rules names) (hnames : names ⊆ more) :
    a.OfPhase phase rules more where
  toBalanced := h.toBalanced
  named x hx := hnames (h.named x hx)
  unique := h.unique
  reasons := h.reasons
  serialized := h.serialized

/-- Parts of one phase that decide on different types go together. -/
theorem OfPhase.union (ha : a.OfPhase phase rules names) (hb : b.OfPhase phase rules more)
    (hnames : ∀ name ∈ names, name ∉ more) : (a ∪ b).OfPhase phase rules (names ++ more) where
  toBalanced := ha.toBalanced.union hb.toBalanced
  named := by
    rintro x (hx | hx)
    · exact List.mem_append_left _ (ha.named x hx)
    · exact List.mem_append_right _ (hb.named x hx)
  unique := by
    rintro x (hx | hx) y (hy | hy) hxy
    · exact ha.unique x hx y hy hxy
    · exact absurd (hxy ▸ hb.named y hy) (hnames x.type (ha.named x hx))
    · exact absurd (hxy ▸ hb.named x hx) (hnames y.type (ha.named y hy))
    · exact hb.unique x hx y hy hxy
  reasons := by
    rintro x (hx | hx)
    · exact ha.reasons x hx
    · exact hb.reasons x hx
  serialized := by
    rintro hphase x (hx | hx)
    · exact .inl (ha.serialized hphase x hx)
    · exact .inr (hb.serialized hphase x hx)

/-- What a kept type adds, however many of its members are registered. -/
theorem ofPhase_kept {d : TypeDescriptor} {reason : String} (hreason : reason ∈ rules.reasons phase)
    {part : Registrations} (hpart : part.OfOne d.name) :
    OfPhase phase rules [d.name]
      { decisions := {⟨reason, d.name⟩}
        sink := { serialization := {name | phase = .preAnalysis ∧ name = d.name} } ∪ part } := by
  refine ⟨⟨?_, ?_, ?_, ?_⟩, ?_, ?_, ?_, ?_⟩
  · simp [hpart.types, eq_comm]
  · simp [hpart.types, hpart.categories]
  · simpa using hpart.invocable
  · simp
  · simp
  · simp
  · simpa using hreason
  · intro hphase
    simp [hphase]

end Holdings

section
variable {σ : Type} (loader : Loader (StateM σ))

theorem mem_of_firstAssignable (d : TypeDescriptor) (names : List String) :
    Ensures (fun first => ∀ name, first = .ok (some name) → name ∈ names)
      (RuleSet.firstAssignable loader d names) := by
  induction names with
  | nil => exact .pure (by simp)
  | cons name rest ih =>
    refine .bind_any fun assignable => ?_
    rcases assignable with e | _ | _
    · exact .pure (by simp)
    · exact fun s first hfirst => List.mem_cons_of_mem name (ih s first hfirst)
    · exact .pure (by simp)

theorem reason_mem_of_map {make : String → Rule} (hmake : ∀ name, (make name).reason = name)
    {first : Except Fault (Option String)} {names : List String}
    (h : ∀ name, first = .ok (some name) → name ∈ names) {rule : Rule}
    (hrule : first.map (·.map make) = .ok (some rule)) : rule.reason ∈ names := by
  rcases first with e | _ | name
  · simp [Except.map] at hrule
  · simp [Except.map] at hrule
  · obtain rfl : make name = rule := by simpa [Except.map] using hrule
    rw [hmake]
    exact h name rfl

theorem Planner.reason_mem_of_ruleFor (phase : Phase) (rules : RuleSet) (d : TypeDescriptor) :
    Ensures (fun selected => ∀ rule, selected = .ok (some rule) → rule.reason ∈ rules.reasons phase)
      (ruleFor loader phase rules d) := by
  cases phase with
  | preAnalysis =>
    refine (mem_of_firstAssignable loader d rules.explicitRoots).bind fun first hfirst => .pure ?_
    exact fun rule => reason_mem_of_map (fun _ => rfl) hfirst
  | postRegistration =>
    simp only [ruleFor, RuleSet.matchPostRegistration, RuleSet.reasons, List.mem_append]
    cases hattribute : rules.attributes.find? d.hasAttribute with
    | some name =>
      refine .pure fun rule hrule => .inl ?_
      obtain rfl : Rule.attributeMarker name = rule := by simpa using hrule
      exact List.mem_of_find?_eq_some hattribute
    | none =>
      refine (mem_of_firstAssignable loader d rules.supertypes).bind fun first hfirst => .pure ?_
      exact fun rule hrule => .inr (reason_mem_of_map (fun _ => rfl) hfirst hrule)

end

namespace Planner
variable {σ : Type} (loader : Loader (StateM σ)) {phase : Phase} {names more : List String}
  {p q r : Planner}

/-- Is `q` the planner `p` with what a phase can add that decides on types of the given names? -/
def Grows (phase : Phase) (names : List String) (p q : Planner) : Prop :=
  ∃ gain, p.Gains q gain ∧ gain.OfPhase phase p.rules names

theorem Gains.grows {gain : Holdings} (h : p.Gains q gain) (hgain : gain.Balanced)
    (hnone : gain.decisions = ∅) : p.Grows phase names q :=
  ⟨gain, h, hgain.ofPhase hnone⟩

theorem Grows.refl (p : Planner) : p.Grows phase names p :=
  (Gains.refl p).grows Holdings.balanced_empty rfl

theorem Grows.keeps (h : p.Grows phase names q) : p.Keeps q := by
  obtain ⟨gain, hgains, -⟩ := h
  exact hgains.toKeeps

theorem Grows.trans (hpq : p.Grows phase names q) (hqr : q.Grows phase more r)
    (hnames : ∀ name ∈ names, name ∉ more) : p.Grows phase (names ++ more) r := by
  obtain ⟨a, ha, haPhase⟩ := hpq
  obtain ⟨b, hb, hbPhase⟩ := hqr
  rw [ha.rules] at hbPhase
  exact ⟨a ∪ b, ha.trans hb, haPhase.union hbPhase hnames⟩

theorem Grows.mono (h : p.Grows phase names q) (hnames : names ⊆ more) : p.Grows phase more q := by
  obtain ⟨gain, hgains, hphase⟩ := h
  exact ⟨gain, hgains, hphase.mono hnames⟩

/-- Where nothing was decided on before, every type can be decided on. -/
theorem Grows.trans_idle (hpq : p.Grows phase [] q) (hqr : q.Grows phase names r) :
    p.Grows phase names r :=
  hpq.trans hqr (by simp)

/-- What decides on nothing can be added at any time. -/
theorem Grows.trans_gains {gain : Holdings} (hpq : p.Grows phase names q) (hqr : q.Gains r gain)
    (hgain : gain.Balanced) (hnone : gain.decisions = ∅) : p.Grows phase names r := by
  have hnil : q.Grows phase [] r := hqr.grows hgain hnone
  simpa using hpq.trans hnil (by simp)

theorem Grows.leave (h : p.Grows phase names q) (records : Journal) :
    p.Grows phase names (q.leave records) :=
  h.trans_gains (q.gains_leave records) Holdings.balanced_empty rfl

theorem Grows.visit (h : p.Grows phase names q) (d : TypeDescriptor) :
    p.Grows phase names (q.visit phase d) :=
  h.trans_gains (q.gains_visit phase d) Holdings.balanced_empty rfl

theorem Grows.serialize (h : p.Grows phase names q) (d : TypeDescriptor) :
    p.Grows phase names (q.serialize d) :=
  h.trans_gains (q.gains_serialize d) (by constructor <;> simp) rfl

/-- Keeping a type decides on it, even if a fault cuts its registrations short. -/
theorem grows_keep {rule : Rule} (p : Planner) (hreason : rule.reason ∈ p.rules.reasons phase)
    (d : TypeDescriptor) :
    Ensures (fun kept => p.Grows phase [d.name] kept.2) (p.keep loader phase rule d) := by
  have hannounced := p.gains_announce phase rule d
  let announced := p.announce phase rule d
  have hregister : Ensures (fun registered => ∃ part : Registrations, part.OfOne d.name ∧
        announced.Gains (announced.withRegister registered.2) { sink := part })
      (announced.reached.register.registerAll loader announced.injectable d) := by
    refine .bind_any fun ancestors => .pure ?_
    obtain ⟨part, hpart, hadds⟩ := Registration.Register.exists_ofOne_addAll announced.injectable d
      ancestors announced.reached.register
    exact ⟨part, hpart, gains_withRegister (Registration.Register.refusal_addAll _ _ _ _) hadds⟩
  rw [keep_eq]
  refine hregister.bind fun registered hregistered => .pure ?_
  obtain ⟨part, hpart, hgains⟩ := hregistered
  -- the two gains together are those of a kept type, written in another way
  refine ⟨_, hannounced.trans hgains, ?_⟩
  convert Holdings.ofPhase_kept hreason hpart using 1
  refine Holdings.ext ?_ ?_ ?_ <;> simp

/-- Types of different names are decided on one after the other. -/
theorem grows_examine {ds : List TypeDescriptor} (hnodup : (ds.map (·.name)).Nodup) (p : Planner) :
    Ensures (fun examined => p.Grows phase (ds.map (·.name)) examined.2)
      (examine loader phase ds p) := by
  induction ds generalizing p with
  | nil => exact .pure (.refl p)
  | cons d rest ih =>
    simp only [List.map_cons, List.nodup_cons] at hnodup
    obtain ⟨hd, hrest⟩ := hnodup
    -- a later type has another name, so the parts of both can be added in one phase
    have hdisjoint : ∀ name ∈ [d.name], name ∉ rest.map (·.name) := by simpa using hd
    refine (reason_mem_of_ruleFor loader phase p.rules d).bind fun selected hselected => ?_
    rcases selected with e | _ | rule
    · exact .pure (.refl p)
    · exact fun s => ((Grows.refl p).visit d).trans (ih hrest _ s) hdisjoint
    · refine (grows_keep loader p (hselected rule rfl) d).bind fun kept hkept => ?_
      obtain ⟨_ | _, q⟩ := kept
      · exact .pure (hkept.mono (by simp))
      · exact (ih hrest (q.visit phase d)).bind fun last hlast =>
          .pure ((hkept.visit d).trans hlast hdisjoint)

theorem grows_survey (w : Workspace) (classpath : List Path) (phase : Phase) (p : Planner) :
    Ensures (fun surveyed => ∃ names, p.Grows phase names surveyed.2)
      (p.survey w loader classpath phase) := by
  refine (Scan.nodup_names_typeUniverse w p.scanner loader classpath).bind fun scan hnodup => ?_
  obtain ⟨found, records⟩ := scan
  have hleft : p.Grows phase [] (p.leave records) := (Grows.refl p).leave records
  refine (grows_examine loader hnodup (p.leave records)).bind fun examined hexamined => ?_
  have hall := hleft.trans_idle hexamined
  obtain ⟨_ | _, q⟩ := examined
  · exact .pure ⟨_, hall⟩
  · cases found.fault <;> exact .pure ⟨_, hall⟩

/-- Looking up the roots decides on nothing. -/
theorem grows_watchRoots (phase : Phase) (roots watched : List String) (p : Planner) :
    Ensures (fun watching => p.Grows phase [] watching.2.2)
      (p.watchRoots loader roots watched) := by
  induction roots generalizing watched p with
  | nil => exact .pure (.refl p)
  | cons name rest ih =>
    refine .bind_any fun found => ?_
    rcases found with e | _ | root
    · exact .pure (.refl p)
    · exact fun s => ((Grows.refl p).leave _).trans_idle (ih _ _ s)
    · intro s
      refine Grows.trans_idle ?_ (ih _ _ s)
      split
      · exact (Grows.refl p).serialize root
      · exact .refl p

end Planner

end Plan
end RetentionPlan
