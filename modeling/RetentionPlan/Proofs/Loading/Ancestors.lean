import Mathlib.Data.List.Flatten
import RetentionPlan.Proofs.Loading.Closure

/-!
# The ancestors of a type

The walk in breadth looks at the supertypes of a type once only, however many names the type is
found under and whatever these names lead to afterwards. So it ends for any type with any loader of
finitely many types, also with one that gives another type, or none, under a type's own name.
-/
namespace RetentionPlan.Loading.Loader

/-- A loader of finitely many types that counts all supertypes in their lists. -/
structure Bounded (loader : Loader Id) : Prop where
  not_fault (name : String) (e : Fault) : (loader.resolve name).run ≠ .error (.fault e)
  finite : ∃ types : List TypeDescriptor,
    (∀ {name d}, (loader.resolve name).run = .ok d → d ∈ types) ∧
      (types.flatMap (·.supertypes)).length ≤ loader.supertypeCount.run

/-- The number of supertypes in the lists of those of the types whose names are not seen. -/
def listedOutside (types : List TypeDescriptor) (seen : List String) : Nat :=
  ((types.filter (·.name ∉ seen)).flatMap (·.supertypes)).length

section
variable {types : List TypeDescriptor} {seen seen' : List String} {parent : TypeDescriptor}

theorem listedOutside_le (types : List TypeDescriptor) (seen : List String) :
    listedOutside types seen ≤ (types.flatMap (·.supertypes)).length :=
  (List.filter_sublist.flatMap _).length_le

theorem listedOutside_le_of_subset (types : List TypeDescriptor) (h : seen ⊆ seen') :
    listedOutside types seen' ≤ listedOutside types seen := by
  have hfewer : (types.filter (·.name ∉ seen')).Sublist (types.filter (·.name ∉ seen)) := by
    refine List.monotone_filter_right types fun d hd => ?_
    simp only [decide_eq_true_eq] at hd ⊢
    exact fun hmem => hd (h hmem)
  exact (hfewer.flatMap _).length_le

/-- A type whose name is seen now has its list taken off. -/
theorem length_add_listedOutside_le (hmem : parent ∈ types) (hnew : parent.name ∉ seen)
    (h : parent.name :: seen ⊆ seen') :
    parent.supertypes.length + listedOutside types seen' ≤ listedOutside types seen := by
  rw [List.cons_subset] at h
  obtain ⟨before, after, rfl⟩ := List.append_of_mem hmem
  have hbefore := listedOutside_le_of_subset before h.2
  have hafter := listedOutside_le_of_subset after h.2
  have hout : (parent :: after).filter (·.name ∉ seen') = after.filter (·.name ∉ seen') :=
    List.filter_cons_of_neg (by simpa using h.1)
  have hin : (parent :: after).filter (·.name ∉ seen) = parent :: after.filter (·.name ∉ seen) :=
    List.filter_cons_of_pos (by simpa using hnew)
  simp only [listedOutside, List.filter_append, hout, hin, List.flatMap_append, List.flatMap_cons,
    List.length_append] at hbefore hafter ⊢
  omega

end

section
variable {loader : Loader Id}

/-- The walk in breadth from any type ends without a fault. -/
theorem exists_ancestors (hloader : loader.Bounded) (d : TypeDescriptor) :
    ∃ ds, (loader.ancestors d).run = ⟨ds, none⟩ ∧ loader.Gathers [d.name] d.supertypes ds := by
  obtain ⟨types, hall, hcount⟩ := hloader.finite
  have hsteps : d.supertypes.length + listedOutside types [d.name] <
      d.supertypes.length + loader.supertypeCount.run + 1 :=
    Nat.lt_succ_of_le (Nat.add_le_add_left ((listedOutside_le types [d.name]).trans hcount) _)
  refine exists_gathers_of_left (fun _ => True) (listedOutside types) hloader.not_fault
    (fun _ _ => trivial)
    (fun name seen => listedOutside_le_of_subset types (List.subset_cons_self name seen))
    (fun {name parent seen} _ _ hname hnew => ?_) (fun _ _ => trivial) hsteps
  exact length_add_listedOutside_le (hall hname) hnew
    (List.cons_subset_cons parent.name (List.subset_cons_self name seen))

end

/-- A loader of finitely many types is bounded as soon as it counts supertypes high enough. -/
theorem exists_bounded (loader : Loader Id)
    (hfault : ∀ name e, (loader.resolve name).run ≠ .error (.fault e))
    (hfinite : {d | ∃ name, (loader.resolve name).run = .ok d}.Finite) :
    ∃ count, ∀ more, count ≤ more → Bounded { loader with supertypeCount := pure more } := by
  let types := hfinite.toFinset.toList
  refine ⟨(types.flatMap (·.supertypes)).length, fun more hmore => ⟨hfault, types, ?_, hmore⟩⟩
  intro name d hd
  simpa [types] using ⟨name, hd⟩

/-- A graph of types counts the supertypes of all its types. -/
theorem bounded_graph (g : TypeGraph) : g.loader.Bounded where
  not_fault := (wellBehaved_graph g).not_fault
  finite := ⟨g.types, fun hd => List.mem_of_find?_eq_some (find?_of_resolve_graph hd),
    Nat.le_refl _⟩

end RetentionPlan.Loading.Loader
