import RetentionPlan.Proofs.Plan.Exactness

/-!
# What does not depend on order

Rules may be declared in any order, and an analysis reports types in any order and as often as it
likes. Only the reasons of decisions depend on the order of rules, and only what is registered for
serialization depends on the reports.
-/
namespace RetentionPlan

open Loading (Loader Reading)

/-- Have two sets the same rules of every kind, in whatever order? -/
structure RuleSet.Reorders (a b : RuleSet) : Prop where
  explicitRoots : a.explicitRoots.Perm b.explicitRoots
  supertypes : a.supertypes.Perm b.supertypes
  attributes : a.attributes.Perm b.attributes

/-- The order of rules says which of them selects a type, not whether one does. -/
theorem RuleSet.Reorders.isSome_selected {a b : RuleSet} (h : a.Reorders b) (loader : Loader Id)
    (phase : Plan.Phase) (d : TypeDescriptor) :
    (a.selected loader phase d).isSome = (b.selected loader phase d).isSome := by
  rw [Bool.eq_iff_iff]
  cases phase with
  | preAnalysis => simp [selected, h.explicitRoots.mem_iff]
  | postRegistration =>
    simp [selected, Option.isSome_or, h.supertypes.mem_iff, h.attributes.mem_iff]

namespace Plan

/-- Are two planners set up alike, but for their rules and manifests? -/
structure Planner.Alike (p q : Planner) : Prop where
  scanner : p.scanner = q.scanner
  injectable : p.injectable = q.injectable
  refusal : p.sink.refusal = q.sink.refusal

theorem perm_foundAmong (loader : Loader Id) {names others : List String} (h : names.Perm others) :
    (loader.foundAmong names).Perm (loader.foundAmong others) :=
  h.filterMap _

theorem mem_foundAmong_congr {loader : Loader Id} {names others : List String}
    (h : ∀ name, name ∈ names ↔ name ∈ others) (d : TypeDescriptor) :
    d ∈ loader.foundAmong names ↔ d ∈ loader.foundAmong others := by
  simp only [Loader.mem_foundAmong, h]

namespace Holdings
variable {loader : Loader Id} {p q : Planner} {phase : Phase} {scanned : List TypeDescriptor}
variable {reported others : List String}

/-- Whichever rule keeps a type, the same is registered. -/
theorem sink_ofScanned_eq (hrules : p.rules.Reorders q.rules) (halike : p.Alike q)
    (d : TypeDescriptor) :
    (ofScanned loader p phase d).sink = (ofScanned loader q phase d).sink := by
  have hsome := hrules.isSome_selected loader phase d
  unfold ofScanned
  rw [halike.injectable, halike.refusal]
  cases hp : p.rules.selected loader phase d with
  | none =>
    rw [hp, Option.isSome_none, eq_comm, Option.isSome_eq_false_iff, Option.isNone_iff_eq_none]
      at hsome
    rw [hsome]
  | some rule =>
    rw [hp, Option.isSome_some, eq_comm, Option.isSome_iff_exists] at hsome
    obtain ⟨other, hother⟩ := hsome
    rw [hother]
    rfl

theorem seen_ofScanned (loader : Loader Id) (p : Planner) (phase : Phase) (d : TypeDescriptor) :
    (ofScanned loader p phase d).seen = ∅ := by
  unfold ofScanned
  split <;> rfl

/-- Reports are about the watched types, in whatever order these are. -/
theorem ofReported_congr {watched more : List String} (h : ∀ root, root ∈ watched ↔ root ∈ more)
    (d : TypeDescriptor) : ofReported loader watched d = ofReported loader more d := by
  have htold : toldFor loader watched d ≠ [] ↔ toldFor loader more d ≠ [] := by
    simp [toldFor, List.filter_eq_nil_iff, h]
  simp only [ofReported, htold]

/-- The reports of two analyses of the same types add the same. -/
theorem total_ofReported_congr (loader : Loader Id) {roots more : List TypeDescriptor}
    (hroots : ∀ d, d ∈ roots ↔ d ∈ more) (hreported : ∀ name, name ∈ reported ↔ name ∈ others) :
    total (loader.foundAmong reported) (ofReported loader (roots.map (·.name))) =
      total (loader.foundAmong others) (ofReported loader (more.map (·.name))) := by
  have hwatched : ofReported loader (roots.map (·.name)) =
      ofReported loader (more.map (·.name)) := by
    funext d
    exact ofReported_congr (fun name => by simp only [List.mem_map, hroots]) d
  rw [hwatched]
  exact total_congr_mem (mem_foundAmong_congr hreported) _

theorem ofRun_reorders (hrules : p.rules.Reorders q.rules) (halike : p.Alike q)
    (hreported : ∀ name, name ∈ reported ↔ name ∈ others) :
    (ofRun loader p scanned reported).sink = (ofRun loader q scanned others).sink ∧
      (ofRun loader p scanned reported).seen = (ofRun loader q scanned others).seen := by
  have hroots : ∀ d, d ∈ loader.foundAmong p.rules.explicitRoots ↔
      d ∈ loader.foundAmong q.rules.explicitRoots :=
    mem_foundAmong_congr fun name => hrules.explicitRoots.mem_iff
  have hscanned (phase : Phase) : (total scanned (ofScanned loader p phase)).sink =
      (total scanned (ofScanned loader q phase)).sink :=
    sink_total_congr (sink_ofScanned_eq hrules halike)
  have hreports := total_ofReported_congr loader hroots hreported
  constructor
  · simp only [ofRun, sink_union, hscanned, hreports, total_congr_mem hroots]
  · ext name
    simp only [ofRun, seen_union, hreports, total_congr_mem hroots, Set.mem_union, mem_seen_total,
      seen_ofScanned]

/-- A run is told by the rules, the loader, the injectable attribute and the members refused. -/
theorem ofRun_alike (halike : p.Alike q) (hrules : p.rules = q.rules) :
    ofRun loader p scanned reported = ofRun loader q scanned reported := by
  have hscanned (phase : Phase) : ofScanned loader p phase = ofScanned loader q phase := by
    funext d
    unfold ofScanned
    rw [hrules, halike.injectable, halike.refusal]
  unfold ofRun
  rw [hscanned, hscanned, hrules]

/-- Reports only add to the types seen and to those registered for serialization. -/
theorem ofRun_reported (reported others : List String) :
    ofRun loader p scanned others =
      { decisions := (ofRun loader p scanned reported).decisions
        seen := (ofRun loader p scanned others).seen
        sink := { (ofRun loader p scanned reported).sink with
          serialization := (ofRun loader p scanned others).sink.serialization } } := by
  refine Holdings.ext ?_ rfl (Registration.Registrations.ext ?_ ?_ ?_ ?_ rfl) <;>
    ext x <;> simp [ofRun, ofReported]

end Holdings

/-- How often an analysis tells the planner of types. -/
def deliveries (loader : Loader Id) (watched reported : List String) : Nat :=
  ((loader.foundAmong reported).map fun d => (toldFor loader watched d).length).sum

theorem deliveries_perm {loader : Loader Id} {watched more reported others : List String}
    (hwatched : watched.Perm more) (hreported : reported.Perm others) :
    deliveries loader watched reported = deliveries loader more others := by
  have htold : (fun d => (toldFor loader watched d).length) = fun d =>
      (toldFor loader more d).length :=
    funext fun d => (hwatched.filter _).length_eq
  unfold deliveries
  rw [htold]
  exact ((perm_foundAmong loader hreported).map _).sum_nat

theorem deliveries_append (loader : Loader Id) (watched reported others : List String) :
    deliveries loader watched (reported ++ others) =
      deliveries loader watched reported + deliveries loader watched others := by
  simp [deliveries, Loader.foundAmong]

theorem phase_complete {loader : Loader Id} {classpath : List Path} {reachable : List String}
    {r r' : Run} {n : Nat} (h : (r.complete loader classpath reachable).run = (.ok n, r')) :
    r'.planner.phase = some .postRegistration := by
  obtain ⟨before, told, -, -, hafter⟩ := parts_of_complete h
  exact (gains_afterRegistration hafter).phase

section
variable {m : Type → Type} [Monad m] {reading : Reading m} {loader : Loader m} {fixed : Loader Id}
variable {w : Workspace} {classpath : List Path} {p q : Planner} {reported others : List String}

/-- What a completed run of a fresh planner ends with, and its count, by the answers of the
loader. -/
theorem complete_ends {n : Nat} {r : Run}
    (hfixed : loader.Corresponds reading.toCorrespondence (Scan.Lists classpath) fixed)
    (hfresh : p.holdings = ∅)
    (hrun : reading.Rel (Run.complete loader classpath reported { workspace := w, planner := p })
      (pure (.ok n, r))) :
    n = deliveries fixed ((fixed.foundAmong p.rules.explicitRoots).map (·.name)) reported ∧
      r.planner.holdings = .ofRun fixed p
        (Scan.typeUniverse w p.scanner fixed classpath).run.1.items reported ∧
      r.planner.phase = some .postRegistration := by
  have hrun' : (Run.complete fixed classpath reported { workspace := w, planner := p }).run =
      (.ok n, r) :=
    reading.unique (hfixed.complete reported _) hrun
  have hcovered : p.holdings.Covered := Holdings.covered_of_seen_eq_empty (by rw [hfresh]; rfl)
  obtain ⟨hcount, hholdings⟩ := holdings_complete hcovered hrun'
  rw [hfresh, Holdings.empty_union] at hholdings
  exact ⟨hcount, hholdings, phase_complete hrun'⟩

/-- Two completed runs of fresh planners that are set up alike, where each answer of the loader is
fixed. If they have the same rules in some order, and the same types are reported in any order and
as often as you like, they end with the same snapshot, the same types seen and decisions on the same
types. If only the reports differ, they differ at most in the types seen and in those registered for
serialization. The number of deliveries depends on no order, and the numbers of two analyses add up
when one follows the other. -/
theorem complete_independent {n k : Nat} {r s : Run}
    (hfixed : loader.Corresponds reading.toCorrespondence (Scan.Lists classpath) fixed)
    (hfresh : p.holdings = ∅) (hfresh' : q.holdings = ∅) (halike : p.Alike q)
    (hrun : reading.Rel (Run.complete loader classpath reported { workspace := w, planner := p })
      (pure (.ok n, r)))
    (hrun' : reading.Rel (Run.complete loader classpath others { workspace := w, planner := q })
      (pure (.ok k, s))) :
    (p.rules.Reorders q.rules → (∀ name, name ∈ reported ↔ name ∈ others) →
      r.planner.sink.snapshot = s.planner.sink.snapshot ∧
      (∀ name, name ∈ r.planner.reached.seen ↔ name ∈ s.planner.reached.seen) ∧
      ∀ name, (∃ x ∈ r.planner.decisions, x.type = name) ↔
      ∃ x ∈ s.planner.decisions, x.type = name) ∧
    (p.rules = q.rules →
      (∀ x, x ∈ r.planner.decisions ↔ x ∈ s.planner.decisions) ∧
      r.planner.phase = s.planner.phase ∧
      s.planner.sink.registrations = { r.planner.sink.registrations with
        serialization := s.planner.sink.registrations.serialization }) ∧
    (p.rules.explicitRoots.Perm q.rules.explicitRoots →
      (reported.Perm others → n = k) ∧
      ∀ {sum : Nat} {t : Run},
        reading.Rel (Run.complete loader classpath (reported ++ others)
          { workspace := w, planner := p })
          (pure (.ok sum, t)) →
        sum = n + k) := by
  obtain ⟨hn, hr, hphase⟩ := complete_ends hfixed hfresh hrun
  obtain ⟨hk, hs, hphase'⟩ := complete_ends hfixed hfresh' hrun'
  rw [← halike.scanner] at hs
  refine ⟨fun hrules hreported => ?_, fun hrules => ?_, fun hroots => ?_⟩
  · obtain ⟨hsink, hseen⟩ := Holdings.ofRun_reorders hrules halike hreported
    rw [← hr, ← hs] at hsink hseen
    refine ⟨Registration.Sink.snapshot_eq hsink, Set.ext_iff.mp hseen, fun name => ?_⟩
    -- decisions may have other reasons, but their types are the types registered
    have htypes : (∃ x ∈ r.planner.holdings.decisions, x.type = name) ↔
        ∃ x ∈ s.planner.holdings.decisions, x.type = name := by
      rw [hr, ← Holdings.mem_types_ofRun, ← hr, hsink, hs, Holdings.mem_types_ofRun]
    exact htypes
  · have hreports : s.planner.holdings =
        { decisions := r.planner.holdings.decisions
          seen := s.planner.holdings.seen
          sink := { r.planner.holdings.sink with
            serialization := s.planner.holdings.sink.serialization } } := by
      rw [hr, hs, ← Holdings.ofRun_alike halike hrules]
      exact Holdings.ofRun_reported reported others
    have hdecisions : r.planner.holdings.decisions = s.planner.holdings.decisions :=
      (congrArg Holdings.decisions hreports).symm
    exact ⟨Set.ext_iff.mp hdecisions, hphase.trans hphase'.symm, congrArg Holdings.sink hreports⟩
  · have hwatched := (perm_foundAmong fixed hroots).map (·.name)
    refine ⟨fun hreported => ?_, fun {sum t} hboth => ?_⟩
    · rw [hn, hk]
      exact deliveries_perm hwatched hreported
    · obtain ⟨hsum, -, -⟩ := complete_ends hfixed hfresh hboth
      rw [hsum, hn, hk, deliveries_append, deliveries_perm hwatched (.refl others)]

end

def zooKeeperOf (roots : List String) : Planner :=
  { zooKeeper with rules := { zooKeeper.rules with explicitRoots := roots } }

def zooRunOf (roots reported : List String) : Except PlanError Nat × Run :=
  (Run.complete zoo.loader [⟨.root, ["zoo.py"]⟩] reported
    { workspace := zooFiles, planner := zooKeeperOf roots }).run

/-- The dog is kept as itself or as an animal, whichever comes first, and all else is the same. -/
theorem complete_independent_zoo :
    let r := zooRunOf ["zoo.Dog", "zoo.Animal"] ["zoo.Dog", "zoo.Gone"]
    let s := zooRunOf ["zoo.Animal", "zoo.Dog"] ["zoo.Gone", "zoo.Dog"]
    r.1 = .ok 1 ∧ s.1 = .ok 1 ∧
    (zooRunOf ["zoo.Dog", "zoo.Animal"] ["zoo.Dog", "zoo.Gone", "zoo.Gone", "zoo.Dog"]).1 = .ok 2 ∧
    r.2.planner.sink.snapshot = s.2.planner.sink.snapshot ∧
    ⟨"zoo.Dog", "zoo.Dog"⟩ ∈ r.2.planner.decisions ∧
    ⟨"zoo.Dog", "zoo.Dog"⟩ ∉ s.2.planner.decisions ∧
    ∀ x, x ∈ r.2.planner.decisions ↔
    x ∈ (zooRunOf ["zoo.Dog", "zoo.Animal"] []).2.planner.decisions := by
  intro r s
  have hfixed := Loader.Corresponds.plain zoo.loader (Scan.Lists [⟨.root, ["zoo.py"]⟩])
  have hfresh (roots : List String) : (zooKeeperOf roots).holdings = ∅ :=
    Planner.holdings_new _ _ _ _
  have halike (roots others : List String) : (zooKeeperOf roots).Alike (zooKeeperOf others) :=
    ⟨rfl, rfl, rfl⟩
  have hr : r = (.ok 1, r.2) := rfl
  have hs : s = (.ok 1, s.2) := rfl
  have hidle : zooRunOf ["zoo.Dog", "zoo.Animal"] [] =
      (.ok 0, (zooRunOf ["zoo.Dog", "zoo.Animal"] []).2) := rfl
  have hroots : ["zoo.Dog", "zoo.Animal"].Perm ["zoo.Animal", "zoo.Dog"] := .swap _ _ _
  obtain ⟨hsame, -, hcount⟩ := complete_independent hfixed (hfresh _) (hfresh _) (halike _ _) hr hs
  obtain ⟨-, hreports, -⟩ := complete_independent hfixed (hfresh _) (hfresh _) (halike _ _) hr hidle
  obtain ⟨hsnapshot, -, -⟩ := hsame ⟨hroots, .refl _, .refl _⟩ (by simp [or_comm])
  obtain ⟨n, hboth⟩ : ∃ n,
      (zooRunOf ["zoo.Dog", "zoo.Animal"] ["zoo.Dog", "zoo.Gone", "zoo.Gone", "zoo.Dog"]).1 =
        .ok n :=
    ⟨2, rfl⟩
  have hsum : n = 1 + 1 := (hcount hroots).2 (Prod.ext hboth rfl)
  refine ⟨rfl, rfl, ?_, hsnapshot, by decide +kernel, by decide +kernel, (hreports rfl).1⟩
  rw [hboth, hsum]

end Plan
end RetentionPlan
