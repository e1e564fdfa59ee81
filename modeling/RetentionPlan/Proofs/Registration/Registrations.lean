import Mathlib.Data.Set.Insert
import RetentionPlan.Registration.Bulk

/-!
# What a sink holds

The sets of a sink, with what every operation of the bulk registration adds to them. Nothing is ever
taken away, and the added part does not depend on what was there before.
-/
namespace RetentionPlan.Registration

open Loading (Found)

@[ext]
structure Registrations where
  types : Set String := ∅
  /-- Types with a category. -/
  categories : Set (String × String) := ∅
  members : Set String := ∅
  invocable : Set String := ∅
  serialization : Set String := ∅

namespace Registrations

instance : EmptyCollection Registrations := ⟨{}⟩

instance : Union Registrations :=
  ⟨fun a b => ⟨a.types ∪ b.types, a.categories ∪ b.categories, a.members ∪ b.members,
    a.invocable ∪ b.invocable, a.serialization ∪ b.serialization⟩⟩

@[simp] theorem types_union (a b : Registrations) : (a ∪ b).types = a.types ∪ b.types := rfl

@[simp] theorem categories_union (a b : Registrations) :
    (a ∪ b).categories = a.categories ∪ b.categories := rfl

@[simp] theorem members_union (a b : Registrations) : (a ∪ b).members = a.members ∪ b.members := rfl

@[simp] theorem invocable_union (a b : Registrations) :
    (a ∪ b).invocable = a.invocable ∪ b.invocable := rfl

@[simp] theorem serialization_union (a b : Registrations) :
    (a ∪ b).serialization = a.serialization ∪ b.serialization := rfl

@[simp] theorem types_empty : (∅ : Registrations).types = ∅ := rfl

@[simp] theorem categories_empty : (∅ : Registrations).categories = ∅ := rfl

@[simp] theorem members_empty : (∅ : Registrations).members = ∅ := rfl

@[simp] theorem invocable_empty : (∅ : Registrations).invocable = ∅ := rfl

@[simp] theorem serialization_empty : (∅ : Registrations).serialization = ∅ := rfl

theorem union_assoc (a b c : Registrations) : a ∪ b ∪ c = a ∪ (b ∪ c) := by
  ext x <;> simp only [types_union, categories_union, members_union, invocable_union,
    serialization_union, Set.union_assoc]

theorem union_comm (a b : Registrations) : a ∪ b = b ∪ a := by
  ext x <;> simp only [types_union, categories_union, members_union, invocable_union,
    serialization_union, Set.union_comm]

@[simp]
theorem union_self (a : Registrations) : a ∪ a = a := by
  ext x <;> simp

@[simp]
theorem union_empty (a : Registrations) : a ∪ ∅ = a := by
  ext x <;> simp

@[simp]
theorem empty_union (a : Registrations) : ∅ ∪ a = a := by
  ext x <;> simp

theorem union_serialization_of_mem {a : Registrations} {name : String}
    (h : name ∈ a.serialization) : a ∪ { serialization := {name} } = a := by
  have hset : a.serialization ∪ {name} = a.serialization :=
    Set.union_eq_self_of_subset_right (Set.singleton_subset_iff.mpr h)
  exact Registrations.ext (Set.union_empty _) (Set.union_empty _) (Set.union_empty _)
    (Set.union_empty _) hset

def accepted (refusal : Member → Option String) (ms : List Member) : Set String :=
  {q | ∃ member ∈ ms, refusal member = none ∧ member.qualifiedName = q}

def ofMembers (refusal : Member → Option String) (invocable : Bool) (ms : List Member) :
    Registrations where
  members := accepted refusal ms
  invocable := if invocable then accepted refusal ms else ∅

/-- What registering a type in bulk adds, by its ancestors. -/
def ofType (refusal : Member → Option String) (injectable : String) (d : TypeDescriptor)
    (ancestors : List TypeDescriptor) : Registrations :=
  { types := {d.name}, categories := {c | c.1 = d.name ∧ c.2 ∈ bulkCategories} } ∪
    ofMembers refusal false (reachableMembers d ancestors) ∪
    ofMembers refusal true
      ((d.constructors ++ d.membersOf .method).filter (needsInvocation injectable))

@[simp]
theorem types_ofType (refusal : Member → Option String) (injectable : String) (d : TypeDescriptor)
    (ancestors : List TypeDescriptor) :
    (ofType refusal injectable d ancestors).types = {d.name} := by
  simp [ofType, ofMembers]

@[simp]
theorem serialization_ofType (refusal : Member → Option String) (injectable : String)
    (d : TypeDescriptor) (ancestors : List TypeDescriptor) :
    (ofType refusal injectable d ancestors).serialization = ∅ := by
  simp [ofType, ofMembers]

/-- Are these the registrations of one type with all its categories, and of members? -/
structure OfOne (part : Registrations) (name : String) : Prop where
  types : part.types = {name}
  categories : part.categories = {c | c.1 = name ∧ c.2 ∈ bulkCategories}
  invocable : part.invocable ⊆ part.members
  serialization : part.serialization = ∅

theorem ofOne_ofType (refusal : Member → Option String) (injectable : String) (d : TypeDescriptor)
    (ancestors : List TypeDescriptor) : (ofType refusal injectable d ancestors).OfOne d.name where
  types := types_ofType ..
  categories := by simp [ofType, ofMembers]
  invocable := by simp [ofType, ofMembers]
  serialization := serialization_ofType ..

theorem ofMembers_nil (refusal : Member → Option String) (invocable : Bool) :
    ofMembers refusal invocable [] = ∅ := by
  ext x <;> simp [ofMembers, accepted]

theorem ofMembers_cons_refused {refusal : Member → Option String} {member : Member} {why : String}
    (h : refusal member = some why) (invocable : Bool) (ms : List Member) :
    ofMembers refusal invocable (member :: ms) = ofMembers refusal invocable ms := by
  ext x <;> simp [ofMembers, accepted, h]

theorem ofMembers_cons_accepted {refusal : Member → Option String} {member : Member}
    (h : refusal member = none) (invocable : Bool) (ms : List Member) :
    ofMembers refusal invocable (member :: ms) =
      { members := {member.qualifiedName},
        invocable := if invocable then {member.qualifiedName} else ∅ } ∪
        ofMembers refusal invocable ms := by
  cases invocable <;> ext x <;> simp [ofMembers, accepted, h, eq_comm]

end Registrations

open Registrations (ofMembers ofType)

namespace Sink

def registrations (s : Sink) : Registrations where
  types := {t | t ∈ s.types}
  categories := {c | c ∈ s.categories}
  members := {q | q ∈ s.members}
  invocable := {q | q ∈ s.invocable}
  serialization := {t | t ∈ s.serialization}

/-- A snapshot shows the sets and nothing else. -/
theorem snapshot_eq {s t : Sink} (h : s.registrations = t.registrations) :
    s.snapshot = t.snapshot := by
  simp only [registrations, Registrations.mk.injEq, Set.ext_iff] at h
  obtain ⟨htypes, hcategories, hmembers, hinvocable, hserialization⟩ := h
  unfold snapshot
  rw [sortedTexts_eq_of_perm (Distinct.perm_toList htypes),
    sortedTexts_eq_of_perm ((Distinct.perm_toList hcategories).map _),
    sortedTexts_eq_of_perm (Distinct.perm_toList hmembers),
    sortedTexts_eq_of_perm (Distinct.perm_toList hinvocable),
    sortedTexts_eq_of_perm (Distinct.perm_toList hserialization)]

theorem registrations_registerSerialization (s : Sink) (d : TypeDescriptor) :
    (s.registerSerialization d).registrations =
      s.registrations ∪ { serialization := {d.name} } := by
  ext x <;> simp [registrations, registerSerialization, or_comm]

theorem registrations_registerType (s : Sink) (d : TypeDescriptor) :
    (s.registerType d).registrations = s.registrations ∪ { types := {d.name} } := by
  ext x <;> simp [registrations, registerType, or_comm]

theorem registrations_registerCategory (s : Sink) (d : TypeDescriptor) (category : String) :
    (s.registerCategory d category).registrations =
      s.registrations ∪ { categories := {(d.name, category)} } := by
  ext x <;> simp [registrations, registerCategory, or_comm]

theorem registrations_registerMember {s s' : Sink} {member : Member} {invocable : Bool}
    (h : s.registerMember member invocable = .ok s') :
    s.refusal member = none ∧ s'.refusal = s.refusal ∧
      s'.registrations = s.registrations ∪
        { members := {member.qualifiedName},
          invocable := if invocable then {member.qualifiedName} else ∅ } := by
  unfold registerMember at h
  cases hr : s.refusal member with
  | some why => simp [hr] at h
  | none =>
    simp only [hr, Except.ok.injEq] at h
    subst h
    refine ⟨rfl, rfl, ?_⟩
    cases invocable <;> ext x <;> simp [registrations, or_comm]

theorem refusal_of_error {s : Sink} {member : Member} {invocable : Bool} {why : String}
    (h : s.registerMember member invocable = .error why) : s.refusal member = some why := by
  unfold registerMember at h
  cases hrefusal : s.refusal member with
  | none => simp [hrefusal] at h
  | some cause =>
    simp only [hrefusal, Except.error.injEq] at h
    rw [h]

theorem registrations_foldl_registerCategory (d : TypeDescriptor) (categories : List String)
    (s : Sink) :
    (categories.foldl (·.registerCategory d) s).registrations =
        s.registrations ∪ { categories := {c | c.1 = d.name ∧ c.2 ∈ categories} } ∧
      (categories.foldl (·.registerCategory d) s).refusal = s.refusal := by
  induction categories generalizing s with
  | nil => exact ⟨by ext x <;> simp, rfl⟩
  | cons category rest ih =>
    obtain ⟨hr, hf⟩ := ih (s.registerCategory d category)
    refine ⟨?_, hf⟩
    rw [List.foldl_cons, hr, registrations_registerCategory, Registrations.union_assoc]
    congr 1
    ext x <;> simp [Prod.ext_iff, and_or_left]

end Sink

namespace Register

/-- Members are added unless they are refused, whatever comes before or after them. -/
theorem registrations_addMembers (invocable : Bool) (ms : List Member) (r : Register) :
    (addMembers invocable ms r).2.sink.registrations =
        r.sink.registrations ∪ ofMembers r.sink.refusal invocable ms ∧
      (addMembers invocable ms r).2.sink.refusal = r.sink.refusal := by
  induction ms generalizing r with
  | nil => exact ⟨by rw [Registrations.ofMembers_nil, Registrations.union_empty]; rfl, rfl⟩
  | cons member rest ih =>
    unfold addMembers
    cases hm : r.sink.registerMember member invocable with
    | ok sink =>
      obtain ⟨hnone, hrefusal, hsink⟩ := Sink.registrations_registerMember hm
      obtain ⟨hr, hf⟩ := ih { r with sink }
      refine ⟨?_, hf.trans hrefusal⟩
      rw [Registrations.ofMembers_cons_accepted hnone, ← Registrations.union_assoc, ← hsink,
        ← hrefusal]
      exact hr
    | error why =>
      rw [Registrations.ofMembers_cons_refused (Sink.refusal_of_error hm)]
      exact ih _

theorem registrations_addType (d : TypeDescriptor) (r : Register) :
    (r.addType d).sink.registrations = r.sink.registrations ∪
        { types := {d.name}, categories := {c | c.1 = d.name ∧ c.2 ∈ bulkCategories} } ∧
      (r.addType d).sink.refusal = r.sink.refusal := by
  obtain ⟨htype, hrefusal⟩ :=
    Sink.registrations_foldl_registerCategory d bulkCategories (r.sink.registerType d)
  refine ⟨?_, hrefusal⟩
  rw [addType, htype, Sink.registrations_registerType, Registrations.union_assoc]
  congr 1
  ext x <;> simp

theorem registrations_addDeclared (d : TypeDescriptor) (ancestors : List TypeDescriptor)
    (r : Register) :
    let declared := (addMembers false (reachableMembers d ancestors) (r.addType d)).2
    declared.sink.registrations = r.sink.registrations ∪
        ({ types := {d.name}, categories := {c | c.1 = d.name ∧ c.2 ∈ bulkCategories} } ∪
          ofMembers r.sink.refusal false (reachableMembers d ancestors)) ∧
      declared.sink.refusal = r.sink.refusal := by
  obtain ⟨htype, hrefusal⟩ := registrations_addType d r
  obtain ⟨hmembers, hsame⟩ :=
    registrations_addMembers false (reachableMembers d ancestors) (r.addType d)
  refine ⟨?_, hsame.trans hrefusal⟩
  rw [hmembers, hrefusal, htype, Registrations.union_assoc]

/-- A bulk registration never changes which members are refused. -/
theorem refusal_addAll (injectable : String) (d : TypeDescriptor) (ancestors : Found TypeDescriptor)
    (r : Register) : (r.addAll injectable d ancestors).2.sink.refusal = r.sink.refusal := by
  have hdeclared := (registrations_addDeclared d ancestors.items r).2
  unfold addAll
  cases ancestors.fault with
  | some fault => exact hdeclared
  | none => exact (registrations_addMembers true _ _).2.trans hdeclared

/-- A bulk registration that no fault cuts short adds the same whatever is there already. -/
theorem registrations_addAll {injectable : String} {d : TypeDescriptor}
    {ancestors : Found TypeDescriptor} {r r' : Register} {n : Nat}
    (h : r.addAll injectable d ancestors = (.ok n, r')) :
    r'.sink.registrations =
      r.sink.registrations ∪ ofType r.sink.refusal injectable d ancestors.items := by
  obtain ⟨hdeclared, hrefusal⟩ := registrations_addDeclared d ancestors.items r
  obtain ⟨hcallable, -⟩ := registrations_addMembers true
    ((d.constructors ++ d.membersOf .method).filter (needsInvocation injectable))
    (addMembers false (reachableMembers d ancestors.items) (r.addType d)).2
  unfold addAll at h
  cases hf : ancestors.fault with
  | some fault => simp [hf] at h
  | none =>
    simp only [hf, Prod.mk.injEq] at h
    obtain ⟨-, rfl⟩ := h
    rw [hcallable, hrefusal, hdeclared, Registrations.union_assoc]
    rfl

/-- Wherever a bulk registration ends, it has added the type with all categories, and members. -/
theorem exists_ofOne_addAll (injectable : String) (d : TypeDescriptor)
    (ancestors : Found TypeDescriptor) (r : Register) :
    ∃ part : Registrations, part.OfOne d.name ∧
      (r.addAll injectable d ancestors).2.sink.registrations = r.sink.registrations ∪ part := by
  cases hf : ancestors.fault with
  | some fault =>
    have hends : (r.addAll injectable d ancestors).2 =
        (addMembers false (reachableMembers d ancestors.items) (r.addType d)).2 := by
      simp only [addAll, hf]
    refine ⟨_, ?_, hends ▸ (registrations_addDeclared d ancestors.items r).1⟩
    exact ⟨by simp [ofMembers], by simp [ofMembers], by simp [ofMembers], by simp [ofMembers]⟩
  | none =>
    have hends : ∃ n, (r.addAll injectable d ancestors).1 = .ok n := by
      simp only [addAll, hf]
      exact ⟨_, rfl⟩
    obtain ⟨n, hn⟩ := hends
    exact ⟨_, Registrations.ofOne_ofType .., registrations_addAll (Prod.ext hn rfl)⟩

end Register
end RetentionPlan.Registration
