import RetentionPlan.Plan.Planner
import RetentionPlan.Proofs.Loading.Spelling

/-!
# Roots that are named by a nickname

A rule may name a type by any name that leads to it. The type is found under that name, but scanned
types are compared with the name as it stands in the rule. So a rule with a nickname matches just
those of the types below that have the nickname written down somewhere above them.
-/
namespace RetentionPlan.Plan.Planner

open Loading (Loader Reading answer)

variable {σ : Type} {loader : Loader (StateM σ)} {s : σ} {d root : TypeDescriptor}
  {nickname : String}

theorem firstAssignable_singleton (loader : Loader (StateM σ)) (d : TypeDescriptor) (name : String)
    (s : σ) :
    answer (RuleSet.firstAssignable loader d [name]) s =
      (answer (loader.isAssignable d name) s).map fun is => if is then some name else none := by
  simp only [RuleSet.firstAssignable, Loading.answer_bind]
  rcases answer (loader.isAssignable d name) s with e | _ | _ <;> rfl

theorem ruleFor_preAnalysis_singleton (name : String) :
    answer (ruleFor loader .preAnalysis { explicitRoots := [name] } d) s =
        .ok (some (.explicitRoot name)) ↔
      answer (loader.isAssignable d name) s = .ok true := by
  simp only [ruleFor, RuleSet.matchExplicitRoot, Loading.answer_bind, Loading.answer_pure,
    firstAssignable_singleton]
  rcases answer (loader.isAssignable d name) s with e | _ | _ <;> simp [Except.map]

theorem ruleFor_postRegistration_singleton (name : String) :
    answer (ruleFor loader .postRegistration { supertypes := [name] } d) s =
        .ok (some (.supertypeRoot name)) ↔
      answer (loader.isAssignable d name) s = .ok true := by
  simp only [ruleFor, RuleSet.matchPostRegistration, List.find?_nil, Loading.answer_bind,
    Loading.answer_pure, firstAssignable_singleton]
  rcases answer (loader.isAssignable d name) s with e | _ | _ <;> simp [Except.map]

/-- A rule that names a root by a nickname matches a type that is assignable to the root if and only
if the nickname is among the names that the type is compared with. If the loader is well behaved,
these are its own name and the names written or found above it. -/
theorem matches_alias_iff (hroot : answer (loader.isAssignable d root.name) s = .ok true) :
    let names := (answer (loader.namesOf d) s).items
    (answer (loader.isAssignable d nickname) s = answer (loader.isAssignable d root.name) s ↔
      nickname ∈ names) ∧
    (answer (ruleFor loader .preAnalysis { explicitRoots := [nickname] } d) s =
      .ok (some (.explicitRoot nickname)) ↔ nickname ∈ names) ∧
    (answer (ruleFor loader .postRegistration { supertypes := [nickname] } d) s =
      .ok (some (.supertypeRoot nickname)) ↔ nickname ∈ names) ∧
    ∀ (inv : σ → Prop) (hs : inv s) (asked : (path root : Path) → Prop) (fixed : Loader Id),
      loader.Corresponds (Reading.invariant inv ⟨s, hs⟩).toCorrespondence asked fixed →
      fixed.WellBehaved → (fixed.resolve d.name).run = .ok d →
        (nickname ∈ names ↔ nickname = d.name ∨ fixed.Above d nickname) := by
  have hassignable : answer (loader.isAssignable d nickname) s = .ok true ↔
      nickname ∈ (answer (loader.namesOf d) s).items := by
    rw [loader.isAssignable_eq_verdict, Loader.verdict_eq_true_iff]
  refine ⟨?_, ?_, ?_, fun inv hs asked fixed hfixed hloader hd => ?_⟩
  · rw [hroot, hassignable]
  · rw [ruleFor_preAnalysis_singleton, hassignable]
  · rw [ruleFor_postRegistration_singleton, hassignable]
  · obtain ⟨hnames, -⟩ := hfixed.namesOf d s hs
    rw [hnames, Loader.mem_namesOf_iff hloader hd]

/-- An animal that its package gives a second name to. -/
def kennelAnimal : TypeDescriptor := { name := "pets.base.Animal", module := "pets.base" }

/-- A dog that imports the animal from the module that declares it. -/
def kennelDog : TypeDescriptor :=
  { name := "dogs.Dog", module := "dogs", supertypes := ["pets.base.Animal"] }

/-- The loader of the animal under both of its names and of the dog. -/
def kennel : Loader (StateM Unit) where
  resolve name :=
    if name = "pets.Animal" ∨ name = kennelAnimal.name then pure (.ok kennelAnimal)
    else if name = kennelDog.name then pure (.ok kennelDog)
    else pure (.error (.unresolved (.unknownType name)))
  declaredTypes _ _ := pure (.ok [])
  supertypeCount := pure 1

/-- The dog is below the animal, but a rule with the animal's second name passes it over. -/
theorem matches_alias_iff_kennel :
    answer (kennel.resolve "pets.Animal") () = .ok kennelAnimal ∧
    answer (kennel.isAssignable kennelDog kennelAnimal.name) () = .ok true ∧
    answer (ruleFor kennel .preAnalysis { explicitRoots := ["pets.Animal"] } kennelDog) () ≠
      .ok (some (.explicitRoot "pets.Animal")) := by
  have hroot : answer (kennel.isAssignable kennelDog kennelAnimal.name) () = .ok true := rfl
  refine ⟨rfl, hroot, ?_⟩
  rw [Ne, (matches_alias_iff hroot).2.1]
  decide

end RetentionPlan.Plan.Planner
