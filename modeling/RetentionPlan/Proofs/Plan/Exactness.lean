import RetentionPlan.Proofs.Plan.Accounting
import RetentionPlan.Proofs.Plan.Correspondence
import RetentionPlan.Types.Graph

/-!
# Exactly what a run keeps

Which decisions and registrations a completed run of a fresh planner ends with, told by the rules
and by the answers of the loader alone. The loader may have effects as long as each of its answers
is always the same.
-/
namespace RetentionPlan

open Loading (Loader Reading)

namespace RuleSet
variable (rules : RuleSet) (loader : Loader Id) (d : TypeDescriptor) (reason : String)

/-- Before the analysis the first explicit root above the type is the reason to keep it. -/
theorem selected_preAnalysis_iff :
    (∃ rule, rules.selected loader .preAnalysis d = some rule ∧ rule.reason = reason) ↔
      rules.explicitRoots.find? (loader.assigns d) = some reason := by
  simp [selected, Rule.reason]

/-- After the registration the first attribute of the type is, or else the first supertype above
it. -/
theorem selected_postRegistration_iff :
    (∃ rule, rules.selected loader .postRegistration d = some rule ∧ rule.reason = reason) ↔
      (rules.attributes.find? d.hasAttribute).or (rules.supertypes.find? (loader.assigns d)) =
        some reason := by
  cases ha : rules.attributes.find? d.hasAttribute with
  | none => simp [selected, ha, Rule.reason]
  | some name => simp [selected, ha, Rule.reason]

end RuleSet

namespace Plan

namespace Holdings
variable {loader : Loader Id} {p : Planner} {phase : Phase} {d : TypeDescriptor}

theorem mem_decisions_ofScanned {x : Decision} :
    x ∈ (ofScanned loader p phase d).decisions ↔
      d.name = x.type ∧
        ∃ rule, p.rules.selected loader phase d = some rule ∧ rule.reason = x.reason := by
  unfold ofScanned
  cases p.rules.selected loader phase d with
  | none => simp
  | some rule =>
    obtain ⟨reason, type⟩ := x
    simp [ofKept, and_comm, eq_comm]

theorem mem_types_ofScanned {name : String} :
    name ∈ (ofScanned loader p phase d).sink.types ↔
      ∃ x ∈ (ofScanned loader p phase d).decisions, x.type = name := by
  unfold ofScanned
  cases p.rules.selected loader phase d with
  | none => simp
  | some rule => simp [ofKept, eq_comm]

theorem mem_serialization_ofScanned {name : String} :
    name ∈ (ofScanned loader p phase d).sink.serialization ↔
      phase = .preAnalysis ∧ (p.rules.selected loader phase d).isSome ∧ d.name = name := by
  unfold ofScanned
  cases p.rules.selected loader phase d with
  | none => simp
  | some rule => simp [ofKept, eq_comm]

theorem mem_serialization_ofReported {watched : List String} {name : String} :
    name ∈ (ofReported loader watched d).sink.serialization ↔
      (∃ root ∈ watched, d.name ≠ root ∧ loader.assigns d root) ∧ d.name = name := by
  simp [ofReported, toldFor, List.filter_eq_nil_iff, eq_comm (a := name)]

variable {scanned : List TypeDescriptor} {reachable : List String}

theorem mem_decisions_ofRun {x : Decision} :
    x ∈ (ofRun loader p scanned reachable).decisions ↔ ∃ d ∈ scanned, d.name = x.type ∧
      (p.rules.explicitRoots.find? (loader.assigns d) = some x.reason ∨
        (p.rules.attributes.find? d.hasAttribute).or
          (p.rules.supertypes.find? (loader.assigns d)) = some x.reason) := by
  have hroots : ∀ root, (ofRoot root).decisions = ∅ := fun _ => rfl
  have hreported : ∀ d watched, (ofReported loader watched d).decisions = ∅ := fun _ _ => rfl
  simp only [ofRun, decisions_union, Set.mem_union, mem_decisions_total, hroots, hreported,
    mem_decisions_ofScanned, RuleSet.selected_preAnalysis_iff,
    RuleSet.selected_postRegistration_iff, Set.mem_empty_iff_false, and_false, exists_false,
    false_or, or_false, ← exists_or, ← and_or_left]

theorem mem_types_ofRun {name : String} :
    name ∈ (ofRun loader p scanned reachable).sink.types ↔
      ∃ x ∈ (ofRun loader p scanned reachable).decisions, x.type = name := by
  have hroots : ∀ root, (ofRoot root).sink.types = ∅ := fun _ => rfl
  have hreported : ∀ d watched, (ofReported loader watched d).sink.types = ∅ := fun _ _ => rfl
  have hrootDecisions : ∀ root, (ofRoot root).decisions = ∅ := fun _ => rfl
  have hreportedDecisions : ∀ d watched, (ofReported loader watched d).decisions = ∅ :=
    fun _ _ => rfl
  simp only [ofRun, sink_union, Registration.Registrations.types_union, decisions_union,
    Set.mem_union, mem_types_total, mem_decisions_total, hroots, hreported, hrootDecisions,
    hreportedDecisions, mem_types_ofScanned, Set.mem_empty_iff_false, and_false, exists_false,
    false_or, or_false]
  constructor
  · rintro (⟨d, hd, x, hx, rfl⟩ | ⟨d, hd, x, hx, rfl⟩)
    · exact ⟨x, .inl ⟨d, hd, hx⟩, rfl⟩
    · exact ⟨x, .inr ⟨d, hd, hx⟩, rfl⟩
  · rintro ⟨x, ⟨d, hd, hx⟩ | ⟨d, hd, hx⟩, rfl⟩
    · exact .inl ⟨d, hd, x, hx, rfl⟩
    · exact .inr ⟨d, hd, x, hx, rfl⟩

theorem mem_serialization_ofRun {name : String} :
    name ∈ (ofRun loader p scanned reachable).sink.serialization ↔
      (∃ root ∈ loader.foundAmong p.rules.explicitRoots, root.isConcrete ∧ root.name = name) ∨
      (∃ d ∈ scanned, (∃ root ∈ p.rules.explicitRoots, loader.assigns d root) ∧ d.name = name) ∨
      ∃ d ∈ loader.foundAmong reachable,
        (∃ root ∈ loader.foundAmong p.rules.explicitRoots,
          d.name ≠ root.name ∧ loader.assigns d root.name) ∧ d.name = name := by
  have hroots : ∀ root, name ∈ (ofRoot root).sink.serialization ↔
      root.isConcrete ∧ root.name = name := by simp [ofRoot, eq_comm (a := name)]
  have hselected : ∀ d, (p.rules.selected loader .preAnalysis d).isSome ↔
      ∃ root ∈ p.rules.explicitRoots, loader.assigns d root := by simp [RuleSet.selected]
  simp only [ofRun, sink_union, Registration.Registrations.serialization_union, Set.mem_union,
    mem_serialization_total, hroots, mem_serialization_ofScanned, hselected,
    mem_serialization_ofReported, List.mem_map, exists_exists_and_eq_and, reduceCtorEq, false_and,
    true_and, and_false, exists_false, or_false, or_assoc]

end Holdings

/-- What a completed run of a fresh planner ends with, if each answer of the loader is fixed. A
decision is there for each scanned type with the first explicit root above it, and for each with its
first attribute or else the first supertype above it, and no other decision; the types of the
decisions are registered, and no others; and the types registered for serialization are the concrete
explicit roots, the scanned types below explicit roots, and the reported types properly below
one. -/
theorem complete_exact {m : Type → Type} [Monad m] {reading : Reading m} {loader : Loader m}
    {fixed : Loader Id} {w : Workspace} {p : Planner} {classpath : List Path}
    {reachable : List String} {scan : Loading.Found TypeDescriptor × Journal} {n : Nat} {r : Run}
    (hfixed : loader.Corresponds reading.toCorrespondence (Scan.Lists classpath) fixed)
    (hfresh : p.holdings = ∅)
    (hscan : reading.Rel (Scan.typeUniverse w p.scanner loader classpath) (pure scan))
    (hrun : reading.Rel (Run.complete loader classpath reachable { workspace := w, planner := p })
      (pure (.ok n, r))) :
    (∀ x, x ∈ r.planner.decisions ↔ ∃ d ∈ scan.1.items, d.name = x.type ∧
      (p.rules.explicitRoots.find? (fixed.assigns d) = some x.reason ∨
        (p.rules.attributes.find? d.hasAttribute).or
          (p.rules.supertypes.find? (fixed.assigns d)) = some x.reason)) ∧
    (∀ name, name ∈ r.planner.sink.types ↔ ∃ x ∈ r.planner.decisions, x.type = name) ∧
    (∀ name, name ∈ r.planner.sink.serialization ↔
      (∃ root ∈ fixed.foundAmong p.rules.explicitRoots, root.isConcrete ∧ root.name = name) ∨
      (∃ d ∈ scan.1.items, (∃ root ∈ p.rules.explicitRoots, fixed.assigns d root) ∧
        d.name = name) ∨
      ∃ d ∈ fixed.foundAmong reachable,
        (∃ root ∈ fixed.foundAmong p.rules.explicitRoots,
          d.name ≠ root.name ∧ fixed.assigns d root.name) ∧ d.name = name) := by
  -- The loader answers like a fixed one, so its scan and its run are those of the fixed one.
  have hscan' : (Scan.typeUniverse w p.scanner fixed classpath).run = scan :=
    reading.unique (hfixed.typeUniverse w p.scanner) hscan
  have hrun' : (Run.complete fixed classpath reachable { workspace := w, planner := p }).run =
      (.ok n, r) :=
    reading.unique (hfixed.complete reachable _) hrun
  have hcovered : p.holdings.Covered := Holdings.covered_of_seen_eq_empty (by rw [hfresh]; rfl)
  obtain ⟨-, hall⟩ := holdings_complete hcovered hrun'
  rw [hscan', hfresh, Holdings.empty_union] at hall
  have hdecisions (x : Decision) : x ∈ r.planner.decisions ↔ x ∈ (Holdings.ofRun fixed p
      scan.1.items reachable).decisions := by
    rw [← hall]; rfl
  have htypes (name : String) : name ∈ r.planner.sink.types ↔ name ∈ (Holdings.ofRun fixed p
      scan.1.items reachable).sink.types := by
    rw [← hall]; rfl
  have hserialization (name : String) : name ∈ r.planner.sink.serialization ↔
      name ∈ (Holdings.ofRun fixed p scan.1.items reachable).sink.serialization := by
    rw [← hall]; rfl
  refine ⟨fun x => ?_, fun name => ?_, fun name => ?_⟩
  · rw [hdecisions, Holdings.mem_decisions_ofRun]
  · rw [htypes, Holdings.mem_types_ofRun]
    simp only [hdecisions]
  · rw [hserialization, Holdings.mem_serialization_ofRun]

/-- Types of a zoo, all from one file: an abstract animal, a dog, a cage and a box that is a
cage. -/
def zoo : TypeGraph where
  types :=
    [{ name := "zoo.Animal", module := "zoo", origin := some "/zoo.py", abstract := true },
      { name := "zoo.Dog", module := "zoo", origin := some "/zoo.py", supertypes := ["zoo.Animal"],
        attributes := ["keep"] },
      { name := "zoo.Cage", module := "zoo", origin := some "/zoo.py", attributes := ["keep"] },
      { name := "zoo.Box", module := "zoo", origin := some "/zoo.py", supertypes := ["zoo.Cage"] }]
  names_nodup := by decide

def zooKeeper : Planner where
  rules :=
    { explicitRoots := ["zoo.Lost", "zoo.Animal"], supertypes := ["zoo.Cage"],
      attributes := ["keep"] }

def zooFiles : Workspace := ⟨.directory [("zoo.py", .file .empty 0)], [], none, 0⟩

/-- A run in the zoo that reports a dog, a box and a type that nobody knows. -/
def zooRun : Except PlanError Nat × Run :=
  (Run.complete zoo.loader [⟨.root, ["zoo.py"]⟩] ["zoo.Dog", "zoo.Box", "zoo.Gone"]
    { workspace := zooFiles, planner := zooKeeper }).run

/-- The dog is kept for the animal, the box for the cage, and the cage for its attribute alone. -/
theorem complete_exact_zoo :
    zooKeeper.holdings = ∅ ∧ zooRun.1 = .ok 1 ∧
    ⟨"zoo.Animal", "zoo.Dog"⟩ ∈ zooRun.2.planner.decisions ∧
    ⟨"zoo.Cage", "zoo.Box"⟩ ∈ zooRun.2.planner.decisions ∧
    ⟨"zoo.Cage", "zoo.Cage"⟩ ∉ zooRun.2.planner.decisions := by
  have hfixed := Loader.Corresponds.plain zoo.loader (Scan.Lists [⟨.root, ["zoo.py"]⟩])
  have hfresh : zooKeeper.holdings = ∅ := Planner.holdings_new _ _ _ _
  have hrun : zooRun = (.ok 1, zooRun.2) := rfl
  obtain ⟨hdecisions, -, -⟩ := complete_exact hfixed hfresh rfl hrun
  refine ⟨hfresh, rfl, ?_, ?_, ?_⟩
  · exact (hdecisions _).mpr (by decide)
  · exact (hdecisions _).mpr (by decide)
  · exact (hdecisions _).not.mpr (by decide)

end Plan
end RetentionPlan
