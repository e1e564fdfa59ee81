import RetentionPlan.Plan.Analysis
import RetentionPlan.Proofs.Registration.Registrations

/-!
# What a planner holds

Decisions, types seen and registrations, as sets. A step of a plan keeps what the planner was given
and adds a part that does not depend on what is there already, so whole plans are sums of such
parts.
-/
namespace RetentionPlan.Plan

open Registration (Registrations)

@[ext]
structure Holdings where
  decisions : Set Decision := ∅
  seen : Set String := ∅
  sink : Registrations := ∅

namespace Holdings

instance : EmptyCollection Holdings := ⟨{}⟩

instance : Union Holdings :=
  ⟨fun a b => ⟨a.decisions ∪ b.decisions, a.seen ∪ b.seen, a.sink ∪ b.sink⟩⟩

@[simp] theorem decisions_empty : (∅ : Holdings).decisions = ∅ := rfl

@[simp] theorem seen_empty : (∅ : Holdings).seen = ∅ := rfl

@[simp] theorem sink_empty : (∅ : Holdings).sink = ∅ := rfl

@[simp] theorem decisions_union (a b : Holdings) : (a ∪ b).decisions = a.decisions ∪ b.decisions :=
  rfl

@[simp] theorem seen_union (a b : Holdings) : (a ∪ b).seen = a.seen ∪ b.seen := rfl

@[simp] theorem sink_union (a b : Holdings) : (a ∪ b).sink = a.sink ∪ b.sink := rfl

theorem union_assoc (a b c : Holdings) : a ∪ b ∪ c = a ∪ (b ∪ c) := by
  refine Holdings.ext ?_ ?_ (Registrations.union_assoc _ _ _)
  · exact Set.union_assoc _ _ _
  · exact Set.union_assoc _ _ _

@[simp]
theorem union_empty (a : Holdings) : a ∪ ∅ = a := by
  refine Holdings.ext ?_ ?_ (Registrations.union_empty _) <;> simp

@[simp]
theorem empty_union (a : Holdings) : ∅ ∪ a = a := by
  refine Holdings.ext ?_ ?_ ?_
  · exact Set.empty_union _
  · exact Set.empty_union _
  · exact Registrations.empty_union _

/-- To hold nothing in every set is to hold nothing. -/
@[simp] theorem mk_empty : Holdings.mk ∅ ∅ (Registrations.mk ∅ ∅ ∅ ∅ ∅) = ∅ := rfl

/-- The sum of the parts that several types contribute. -/
def total (ds : List TypeDescriptor) (part : TypeDescriptor → Holdings) : Holdings :=
  ds.foldr (fun d rest => part d ∪ rest) ∅

section
variable (ds : List TypeDescriptor) (part : TypeDescriptor → Holdings)

@[simp] theorem total_nil : total [] part = ∅ := rfl

@[simp] theorem total_cons (d : TypeDescriptor) : total (d :: ds) part = part d ∪ total ds part :=
  rfl

theorem mem_total {α : Type} (view : Holdings → Set α) (hempty : view ∅ = ∅)
    (hunion : ∀ a b, view (a ∪ b) = view a ∪ view b) {x : α} :
    x ∈ view (total ds part) ↔ ∃ d ∈ ds, x ∈ view (part d) := by
  induction ds with
  | nil => simp [hempty]
  | cons d ds ih => simp [hunion, ih]

@[simp]
theorem mem_decisions_total {x : Decision} :
    x ∈ (total ds part).decisions ↔ ∃ d ∈ ds, x ∈ (part d).decisions :=
  mem_total ds part (·.decisions) rfl fun _ _ => rfl

@[simp]
theorem mem_seen_total {name : String} :
    name ∈ (total ds part).seen ↔ ∃ d ∈ ds, name ∈ (part d).seen :=
  mem_total ds part (·.seen) rfl fun _ _ => rfl

@[simp]
theorem mem_types_total {name : String} :
    name ∈ (total ds part).sink.types ↔ ∃ d ∈ ds, name ∈ (part d).sink.types :=
  mem_total ds part (·.sink.types) rfl fun _ _ => rfl

@[simp]
theorem mem_categories_total {c : String × String} :
    c ∈ (total ds part).sink.categories ↔ ∃ d ∈ ds, c ∈ (part d).sink.categories :=
  mem_total ds part (·.sink.categories) rfl fun _ _ => rfl

@[simp]
theorem mem_members_total {name : String} :
    name ∈ (total ds part).sink.members ↔ ∃ d ∈ ds, name ∈ (part d).sink.members :=
  mem_total ds part (·.sink.members) rfl fun _ _ => rfl

@[simp]
theorem mem_invocable_total {name : String} :
    name ∈ (total ds part).sink.invocable ↔ ∃ d ∈ ds, name ∈ (part d).sink.invocable :=
  mem_total ds part (·.sink.invocable) rfl fun _ _ => rfl

@[simp]
theorem mem_serialization_total {name : String} :
    name ∈ (total ds part).sink.serialization ↔ ∃ d ∈ ds, name ∈ (part d).sink.serialization :=
  mem_total ds part (·.sink.serialization) rfl fun _ _ => rfl

end

/-- A sum does not depend on the order of the types, nor on how often each is there. -/
theorem total_congr_mem {ds es : List TypeDescriptor} (h : ∀ d, d ∈ ds ↔ d ∈ es)
    (part : TypeDescriptor → Holdings) : total ds part = total es part := by
  refine Holdings.ext ?_ ?_ (Registrations.ext ?_ ?_ ?_ ?_ ?_) <;> ext x <;> simp [h]

/-- What is registered by a sum is told by what the parts register. -/
theorem sink_total_congr {ds : List TypeDescriptor} {part other : TypeDescriptor → Holdings}
    (h : ∀ d, (part d).sink = (other d).sink) : (total ds part).sink = (total ds other).sink := by
  refine Registrations.ext ?_ ?_ ?_ ?_ ?_ <;> ext x <;> simp [h]

/-- Is every type seen also registered for serialization? -/
def Covered (h : Holdings) : Prop := h.seen ⊆ h.sink.serialization

theorem Covered.union {a b : Holdings} (ha : a.Covered) (hb : b.Covered) : (a ∪ b).Covered :=
  Set.union_subset_union ha hb

theorem covered_of_seen_eq_empty {h : Holdings} (hs : h.seen = ∅) : h.Covered := by
  simp [Covered, hs]

theorem covered_note (d : TypeDescriptor) :
    Covered { seen := {d.name}, sink := { serialization := {d.name} } } :=
  subset_rfl

theorem covered_total {ds : List TypeDescriptor} {part : TypeDescriptor → Holdings}
    (h : ∀ d, (part d).Covered) : (total ds part).Covered := by
  intro name hname
  obtain ⟨d, hd, hseen⟩ := (mem_seen_total ds part).mp hname
  exact (mem_serialization_total ds part).mpr ⟨d, hd, h d hseen⟩

end Holdings

namespace Planner

def holdings (p : Planner) : Holdings where
  decisions := {x | x ∈ p.decisions}
  seen := {name | name ∈ p.reached.seen}
  sink := p.sink.registrations

theorem holdings_new (rules : RuleSet) (scanner : Scan.Scanner) (manifest : Option Path)
    (injectable : String) :
    Planner.holdings { rules, scanner, manifest, injectable } = ∅ := by
  have hnone : ∀ {α : Type} (a : α), ¬ a ∈ (Distinct.empty : Distinct α) := Distinct.not_mem_empty
  refine Holdings.ext ?_ ?_ (Registrations.ext ?_ ?_ ?_ ?_ ?_) <;>
    exact Set.eq_empty_of_forall_notMem hnone

structure Keeps (p q : Planner) : Prop where
  rules : q.rules = p.rules
  scanner : q.scanner = p.scanner
  manifest : q.manifest = p.manifest
  injectable : q.injectable = p.injectable
  refusal : q.sink.refusal = p.sink.refusal
  phase : q.phase = p.phase

theorem Keeps.refl (p : Planner) : p.Keeps p := ⟨rfl, rfl, rfl, rfl, rfl, rfl⟩

theorem Keeps.trans {p q r : Planner} (hpq : p.Keeps q) (hqr : q.Keeps r) : p.Keeps r where
  rules := hqr.rules.trans hpq.rules
  scanner := hqr.scanner.trans hpq.scanner
  manifest := hqr.manifest.trans hpq.manifest
  injectable := hqr.injectable.trans hpq.injectable
  refusal := hqr.refusal.trans hpq.refusal
  phase := hqr.phase.trans hpq.phase

structure Gains (p q : Planner) (gain : Holdings) : Prop extends Keeps p q where
  holdings : q.holdings = p.holdings ∪ gain

namespace Gains

theorem refl (p : Planner) : p.Gains p ∅ :=
  ⟨.refl p, (Holdings.union_empty _).symm⟩

theorem trans {p q r : Planner} {a b : Holdings} (hpq : p.Gains q a) (hqr : q.Gains r b) :
    p.Gains r (a ∪ b) where
  toKeeps := hpq.toKeeps.trans hqr.toKeeps
  holdings := by rw [hqr.holdings, hpq.holdings, Holdings.union_assoc]

theorem covered {p q : Planner} {gain : Holdings} (h : p.Gains q gain) (hp : p.holdings.Covered)
    (hgain : gain.Covered) : q.holdings.Covered := by
  rw [h.holdings]
  exact hp.union hgain

end Gains

theorem gains_leave (p : Planner) (records : Journal) : p.Gains (p.leave records) ∅ :=
  ⟨⟨rfl, rfl, rfl, rfl, rfl, rfl⟩, (Holdings.union_empty _).symm⟩

theorem Gains.leave {p q : Planner} {gain : Holdings} (h : p.Gains q gain) (records : Journal) :
    p.Gains (q.leave records) gain := by
  simpa using h.trans (q.gains_leave records)

theorem gains_visit (p : Planner) (phase : Phase) (d : TypeDescriptor) :
    p.Gains (p.visit phase d) ∅ := by
  cases phase <;> exact ⟨⟨rfl, rfl, rfl, rfl, rfl, rfl⟩, (Holdings.union_empty _).symm⟩

theorem gains_decide (p : Planner) (phase : Phase) (rule : Rule) (d : TypeDescriptor) :
    p.Gains (p.decide phase rule d) { decisions := {⟨rule.reason, d.name⟩} } := by
  unfold decide Distinct.insertNew
  by_cases h : (⟨rule.reason, d.name⟩ : Decision) ∈ p.decisions
  · simp only [h, decide_true, Bool.not_true]
    refine ⟨⟨rfl, rfl, rfl, rfl, rfl, rfl⟩, ?_⟩
    refine Holdings.ext ?_ (Set.union_empty _).symm (Registrations.union_empty _).symm
    exact (Set.union_eq_self_of_subset_right (Set.singleton_subset_iff.mpr h)).symm
  · simp only [h, decide_false, Bool.not_false]
    refine ⟨⟨rfl, rfl, rfl, rfl, rfl, rfl⟩, ?_⟩
    refine Holdings.ext ?_ (Set.union_empty _).symm (Registrations.union_empty _).symm
    ext x
    exact Distinct.mem_insert

theorem gains_serialize (p : Planner) (d : TypeDescriptor) :
    p.Gains (p.serialize d) { sink := { serialization := {d.name} } } :=
  ⟨⟨rfl, rfl, rfl, rfl, rfl, rfl⟩, Holdings.ext (Set.union_empty _).symm (Set.union_empty _).symm
    (Registration.Sink.registrations_registerSerialization p.sink d)⟩

theorem gains_withRegister {p : Planner} {register : Registration.Register} {part : Registrations}
    (hrefusal : register.sink.refusal = p.sink.refusal)
    (hpart : register.sink.registrations = p.sink.registrations ∪ part) :
    p.Gains (p.withRegister register) { sink := part } :=
  ⟨⟨rfl, rfl, rfl, rfl, hrefusal, rfl⟩,
    Holdings.ext (Set.union_empty _).symm (Set.union_empty _).symm hpart⟩

/-- What is done for a kept type before its registrations. -/
def announce (p : Planner) (phase : Phase) (rule : Rule) (d : TypeDescriptor) : Planner :=
  if phase = .preAnalysis then (p.decide phase rule d).serialize d else p.decide phase rule d

theorem gains_announce (p : Planner) (phase : Phase) (rule : Rule) (d : TypeDescriptor) :
    p.Gains (p.announce phase rule d)
      { decisions := {⟨rule.reason, d.name⟩}
        sink := { serialization := {name | phase = .preAnalysis ∧ name = d.name} } } := by
  have hdecided := p.gains_decide phase rule d
  have hlisted : (p.decide phase rule d).Gains (p.announce phase rule d)
      { sink := { serialization := {name | phase = .preAnalysis ∧ name = d.name} } } := by
    by_cases hphase : phase = .preAnalysis
    · simpa [announce, hphase] using (p.decide phase rule d).gains_serialize d
    · simpa [announce, hphase] using Gains.refl (p.decide phase rule d)
  have hboth := hdecided.trans hlisted
  refine ⟨hboth.toKeeps, hboth.holdings.trans ?_⟩
  congr 1
  refine Holdings.ext ?_ ?_ ?_ <;> simp

theorem keep_eq {m : Type → Type} [Monad m] (loader : Loading.Loader m) (phase : Phase)
    (rule : Rule) (d : TypeDescriptor) (p : Planner) :
    p.keep loader phase rule d = do
      let p := p.announce phase rule d
      let (result, register) ← p.reached.register.registerAll loader p.injectable d
      return (result.map fun _ => (), p.withRegister register) :=
  rfl

/-- A note adds the type to those seen. If it was there, it was registered when it came. -/
theorem gains_note {p : Planner} (hp : p.holdings.Covered) (d : TypeDescriptor) :
    p.Gains (p.note d) { seen := {d.name}, sink := { serialization := {d.name} } } := by
  by_cases h : d.name ∈ p.reached.seen
  · have hser : d.name ∈ p.sink.registrations.serialization := hp h
    have hnote : p.note d = p := by simp [note, Reached.note_of_mem h]
    rw [hnote]
    refine ⟨⟨rfl, rfl, rfl, rfl, rfl, rfl⟩, Holdings.ext (Set.union_empty _).symm ?_ ?_⟩
    · exact (Set.union_eq_self_of_subset_right (Set.singleton_subset_iff.mpr h)).symm
    · exact (Registrations.union_serialization_of_mem hser).symm
  · unfold note Reached.note Distinct.insertNew
    simp only [h, decide_false, Bool.not_false]
    refine ⟨⟨rfl, rfl, rfl, rfl, rfl, rfl⟩, Holdings.ext (Set.union_empty _).symm ?_ ?_⟩
    · ext x
      exact Distinct.mem_insert
    · exact Registration.Sink.registrations_registerSerialization p.sink d

end Planner
end RetentionPlan.Plan
