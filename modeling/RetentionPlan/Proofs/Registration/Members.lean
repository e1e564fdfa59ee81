import Mathlib.Data.List.Nodup
import RetentionPlan.Proofs.Loading.Ancestors
import RetentionPlan.Proofs.Registration.Registrations

/-!
# The members of a type that are registered

What a bulk registration adds, told by the members themselves: those that the type declares, those
that come to it from above, and those of its own that have to stay invocable. A sink that refuses
some members gets all others.
-/
namespace RetentionPlan.Registration

open Loading (Loader)

/-- Does the member come to `d` from above? It is public, `d` declares none in its place, and it is
the first of its key in the nearest of the ancestors that declare such a member. -/
structure Inherits (d : TypeDescriptor) (ancestors : List TypeDescriptor) (member : Member) :
    Prop where
  isPublic : member.isPublic = true
  not_declared : ∀ own ∈ d.members, own.key ≠ member.key
  nearest : ∃ nearer ancestor further, ancestors = nearer ++ ancestor :: further ∧
    ancestor.members.find? (·.key = member.key) = some member ∧
    ∀ other ∈ nearer, ∀ own ∈ other.members, own.key ≠ member.key

/-- Does `d` need the member to be invocable? Such are the constructors that can be called without
arguments, the injectable methods and the hooks of serialization, all of its own. -/
inductive Callable (injectable : String) (d : TypeDescriptor) : Member → Prop
  | constructor {member : Member} : member ∈ d.members → member.kind = .constructor →
      member.arity = some 0 → Callable injectable d member
  | implicitConstructor : (∀ member ∈ d.members, member.kind ≠ .constructor) →
      Callable injectable d d.implicitConstructor
  | injectable {member : Member} : member ∈ d.members → member.kind = .method →
      injectable ∈ member.attributes → Callable injectable d member
  | hook {member : Member} : member ∈ d.members → member.kind = .method →
      member.name ∈ serializationHooks → Callable injectable d member

def Registered (injectable : String) (d : TypeDescriptor) (ancestors : List TypeDescriptor)
    (member : Member) : Prop :=
  member ∈ d.members ∨ Inherits d ancestors member ∨ Callable injectable d member

/-- A type with all categories and, as far as they are kept, the members that are registered for it
and those among them that it needs to be invocable. -/
def Registrations.ofReached (injectable : String) (d : TypeDescriptor)
    (ancestors : List TypeDescriptor) (kept : Set Member) : Registrations where
  types := {d.name}
  categories := {c | c.1 = d.name ∧ c.2 ∈ bulkCategories}
  members := Member.qualifiedName '' {member ∈ kept | Registered injectable d ancestors member}
  invocable := Member.qualifiedName '' {member ∈ kept | Callable injectable d member}

section
variable {overridden : List (MemberKind × String)} {ms : List Member} {member : Member}

theorem isPublic_congr {other : Member} (h : other.key = member.key) :
    other.isPublic = member.isPublic := by
  have hname : other.name = member.name := congrArg Prod.snd h
  simp only [Member.isPublic, hname]

/-- Of the public members with a key that is not overridden the first is inherited. -/
theorem mem_inheritedFrom_iff :
    member ∈ (inheritedFrom overridden ms).1 ↔
      member.isPublic = true ∧ member.key ∉ overridden ∧
        ms.find? (·.key = member.key) = some member := by
  induction ms generalizing overridden with
  | nil => simp [inheritedFrom]
  | cons first rest ih =>
    -- A first member of the same key decides, whether it is passed over or taken; one of another
    -- key changes nothing.
    by_cases hkey : first.key = member.key
    · have hpublic := isPublic_congr hkey
      rw [List.find?_cons_of_pos (by simpa using hkey)]
      by_cases hskip : first.key ∈ overridden ∨ !first.isPublic
      · simp only [inheritedFrom, if_pos hskip, ih]
        rw [hkey, hpublic] at hskip
        have hout : ¬ (member.isPublic = true ∧ member.key ∉ overridden) := by
          rintro ⟨h, hnew⟩
          simp [h, hnew] at hskip
        exact iff_of_false (fun h => hout ⟨h.1, h.2.1⟩) (fun h => hout ⟨h.1, h.2.1⟩)
      · simp only [inheritedFrom, if_neg hskip, List.mem_cons, ih]
        rw [not_or] at hskip
        constructor
        · rintro (rfl | ⟨-, hnew, -⟩)
          · exact ⟨by simpa using hskip.2, hskip.1, rfl⟩
          · exact absurd (.inl hkey.symm) hnew
        · rintro ⟨-, -, hfirst⟩
          exact .inl (Option.some.inj hfirst).symm
    · rw [List.find?_cons_of_neg (by simpa using hkey)]
      have hne : member ≠ first := fun h => hkey (congrArg Member.key h.symm)
      by_cases hskip : first.key ∈ overridden ∨ !first.isPublic
      · simp only [inheritedFrom, if_pos hskip, ih]
      · simp only [inheritedFrom, if_neg hskip, List.mem_cons, ih, hne, false_or, Ne.symm hkey]

theorem nodup_inheritedFrom (overridden : List (MemberKind × String)) (ms : List Member) :
    ((inheritedFrom overridden ms).1.map (·.key)).Nodup := by
  induction ms generalizing overridden with
  | nil => exact List.nodup_nil
  | cons first rest ih =>
    by_cases hskip : first.key ∈ overridden ∨ !first.isPublic
    · simpa only [inheritedFrom, if_pos hskip] using ih overridden
    · simp only [inheritedFrom, if_neg hskip, List.map_cons, List.nodup_cons]
      refine ⟨fun hmem => ?_, ih _⟩
      obtain ⟨other, hother, hkey⟩ := List.mem_map.mp hmem
      have hnew := (mem_inheritedFrom_iff.mp hother).2.1
      exact hnew (hkey ▸ List.mem_cons_self)

/-- What comes to a type from above. -/
def inheritedMembers (d : TypeDescriptor) (ancestors : List TypeDescriptor) : List Member :=
  (inheritedFrom (d.members.map (·.key)) (ancestors.flatMap (·.members))).1

variable {d : TypeDescriptor} {ancestors : List TypeDescriptor} {injectable : String}

theorem mem_inheritedMembers_iff :
    member ∈ inheritedMembers d ancestors ↔ Inherits d ancestors member := by
  rw [inheritedMembers, mem_inheritedFrom_iff, List.find?_flatMap, List.findSome?_eq_some_iff]
  constructor
  · rintro ⟨hpublic, hnew, nearer, ancestor, further, hsplit, hfirst, hnone⟩
    refine ⟨hpublic, fun own hown hkey => hnew (List.mem_map.mpr ⟨own, hown, hkey⟩),
      nearer, ancestor, further, hsplit, hfirst, fun other hother own hown => ?_⟩
    simpa using List.find?_eq_none.mp (hnone other hother) own hown
  · rintro ⟨hpublic, hnew, nearer, ancestor, further, hsplit, hfirst, hnone⟩
    refine ⟨hpublic, fun hmem => ?_, nearer, ancestor, further, hsplit, hfirst,
      fun other hother => ?_⟩
    · obtain ⟨own, hown, hkey⟩ := List.mem_map.mp hmem
      exact hnew own hown hkey
    · rw [List.find?_eq_none]
      exact fun own hown => by simpa using hnone other hother own hown

theorem mem_membersOf {kind : MemberKind} :
    member ∈ d.membersOf kind ↔ member ∈ d.members ∧ member.kind = kind := by
  simp [TypeDescriptor.membersOf]

theorem mem_constructors_iff : member ∈ d.constructors ↔
    (member ∈ d.members ∧ member.kind = .constructor) ∨
      ((∀ own ∈ d.members, own.kind ≠ .constructor) ∧ member = d.implicitConstructor) := by
  unfold TypeDescriptor.constructors
  cases hown : d.membersOf .constructor with
  | nil =>
    have hnone : ∀ own ∈ d.members, own.kind ≠ .constructor := fun own hmem hkind => by
      have h : own ∈ d.membersOf .constructor := mem_membersOf.mpr ⟨hmem, hkind⟩
      rw [hown] at h
      cases h
    simp only [List.mem_singleton]
    constructor
    · rintro rfl
      exact .inr ⟨hnone, rfl⟩
    · rintro (⟨hmem, hkind⟩ | ⟨-, rfl⟩)
      · exact absurd hkind (hnone member hmem)
      · rfl
  | cons first rest =>
    have hfirst : first ∈ d.membersOf .constructor := hown ▸ List.mem_cons_self
    rw [mem_membersOf] at hfirst
    have hmem : member ∈ first :: rest ↔ member ∈ d.members ∧ member.kind = .constructor := by
      rw [← hown, mem_membersOf]
    show member ∈ first :: rest ↔ _
    rw [hmem]
    constructor
    · exact .inl
    · rintro (h | ⟨hnone, -⟩)
      · exact h
      · exact absurd hfirst.2 (hnone first hfirst.1)

/-- What is registered a second time, as invocable. -/
theorem mem_callable_iff :
    member ∈ (d.constructors ++ d.membersOf .method).filter (needsInvocation injectable) ↔
      Callable injectable d member := by
  rw [List.mem_filter, List.mem_append, mem_constructors_iff, mem_membersOf]
  constructor
  · rintro ⟨(⟨hmem, hkind⟩ | ⟨hnone, rfl⟩) | ⟨hmem, hkind⟩, hneeds⟩
    · simp only [needsInvocation, hkind, Member.isNoArgConstructor, decide_true, Bool.true_and,
        decide_eq_true_eq] at hneeds
      exact .constructor hmem hkind hneeds
    · exact .implicitConstructor hnone
    · simp only [needsInvocation, hkind, Bool.or_eq_true, List.contains_iff_mem] at hneeds
      rcases hneeds with hattribute | hname
      · exact .injectable hmem hkind hattribute
      · exact .hook hmem hkind hname
  · intro h
    cases h with
    | constructor hmem hkind harity =>
      exact ⟨.inl (.inl ⟨hmem, hkind⟩),
        by simp [needsInvocation, Member.isNoArgConstructor, hkind, harity]⟩
    | implicitConstructor hnone => exact ⟨.inl (.inr ⟨hnone, rfl⟩), rfl⟩
    | injectable hmem hkind hattribute =>
      exact ⟨.inr ⟨hmem, hkind⟩, by simp [needsInvocation, hkind, hattribute]⟩
    | hook hmem hkind hname => exact ⟨.inr ⟨hmem, hkind⟩, by simp [needsInvocation, hkind, hname]⟩

theorem mem_reachableMembers_iff :
    member ∈ reachableMembers d ancestors ↔ member ∈ d.members ∨ Inherits d ancestors member := by
  rw [reachableMembers, List.mem_append, ← mem_inheritedMembers_iff, inheritedMembers]

theorem Registrations.ofType_eq_ofReached (refusal : Member → Option String) (injectable : String)
    (d : TypeDescriptor) (ancestors : List TypeDescriptor) :
    ofType refusal injectable d ancestors =
      ofReached injectable d ancestors {member | refusal member = none} := by
  ext q
  · simp [ofReached]
  · simp [ofType, ofMembers, ofReached]
  · simp only [ofType, members_union, ofMembers, accepted, ofReached, mem_reachableMembers_iff,
      mem_callable_iff, Set.empty_union, Set.mem_union, Set.mem_ofPred_eq, Set.mem_image,
      Registered, ← exists_or]
    refine exists_congr fun member => ?_
    tauto
  · simp only [ofType, invocable_union, ofMembers, accepted, ofReached, mem_callable_iff,
      Bool.false_eq_true, if_false, if_true, Set.empty_union, Set.mem_ofPred_eq, Set.mem_image]
    refine exists_congr fun member => ?_
    tauto
  · simp [ofReached]

end

theorem Sink.registrations_new (refusal : Member → Option String) :
    ({ refusal } : Sink).registrations = ∅ := by
  ext x <;> simp [registrations]

namespace Register

theorem count_addMembers (invocable : Bool) (ms : List Member) (r : Register) :
    (addMembers invocable ms r).1 =
      (ms.filter fun member => (r.sink.refusal member).isNone).length := by
  induction ms generalizing r with
  | nil => rfl
  | cons member rest ih =>
    unfold addMembers
    cases hm : r.sink.registerMember member invocable with
    | ok sink =>
      obtain ⟨hnone, hrefusal, -⟩ := Sink.registrations_registerMember hm
      have hrest := ih { r with sink }
      simp only [hrefusal] at hrest
      rw [List.filter_cons_of_pos (by simp [hnone]), List.length_cons, ← hrest]
    | error why =>
      rw [List.filter_cons_of_neg (by simp [Sink.refusal_of_error hm])]
      exact ih _

section
variable {loader : Loader Id} {d : TypeDescriptor} {ancestors : List TypeDescriptor}

/-- A bulk registration whose walk meets no fault ends well, counts the members that are not refused
and adds the same to every sink that refuses the same. -/
theorem exists_registerAll (h : (loader.ancestors d).run = ⟨ancestors, none⟩) (injectable : String)
    (r : Register) :
    ∃ r', (r.registerAll loader injectable d).run = (.ok ((reachableMembers d ancestors).filter
        fun member => (r.sink.refusal member).isNone).length, r') ∧
      r'.sink.refusal = r.sink.refusal ∧
      r'.sink.registrations =
        r.sink.registrations ∪
        .ofReached injectable d ancestors {member | r.sink.refusal member = none} := by
  have hrun : (r.registerAll loader injectable d).run =
      r.addAll injectable d ⟨ancestors, none⟩ := by
    simp only [registerAll, Id.run_bind, Id.run_pure, h]
  have htype := (registrations_addType d r).2
  obtain ⟨n, r', hpair⟩ : ∃ n r', r.addAll injectable d ⟨ancestors, none⟩ = (.ok n, r') :=
    ⟨_, _, rfl⟩
  have hcount : n = ((reachableMembers d ancestors).filter
      fun member => (r.sink.refusal member).isNone).length := by
    have hfirst := congrArg Prod.fst hpair
    simp only [addAll, count_addMembers, htype, Except.ok.injEq] at hfirst
    exact hfirst.symm
  have hrefusal : r'.sink.refusal = r.sink.refusal := by
    rw [← refusal_addAll injectable d ⟨ancestors, none⟩ r, hpair]
  have hadded := registrations_addAll hpair
  rw [Registrations.ofType_eq_ofReached] at hadded
  exact ⟨r', by rw [hrun, hpair, hcount], hrefusal, hadded⟩

/-- A sink that refuses nothing counts every member and adds all of them. -/
theorem exists_registerAll_of_plain (h : (loader.ancestors d).run = ⟨ancestors, none⟩)
    (injectable : String) {r : Register} (hplain : ∀ member, r.sink.refusal member = none) :
    ∃ r', (r.registerAll loader injectable d).run =
      (.ok (reachableMembers d ancestors).length, r') ∧
      (∀ member, r'.sink.refusal member = none) ∧
      r'.sink.registrations =
        r.sink.registrations ∪ .ofReached injectable d ancestors Set.univ := by
  obtain ⟨r', hrun, hrefusal, hadded⟩ := exists_registerAll h injectable r
  have hall : (reachableMembers d ancestors).filter (fun member => (r.sink.refusal member).isNone) =
      reachableMembers d ancestors := by
    simp [hplain]
  have huniv : {member | r.sink.refusal member = none} = Set.univ := by
    simp [hplain]
  rw [hall] at hrun
  rw [huniv] at hadded
  exact ⟨r', hrun, fun member => by rw [hrefusal, hplain], hadded⟩

end

/-- A loader of finitely many types, such as a graph of types, is bounded as soon as it counts
supertypes high enough. With a bounded loader each type has one set of registrations, which a bulk
registration adds to any sink that refuses nothing: the type, all categories, the declared members,
of those above the first public one for each key, and once more, as invocable, its constructors
without arguments, injectable methods and hooks. Registering again changes nothing, and two types
may be registered in either order. -/
theorem registerAll_exact :
    (∀ loader : Loader Id, (∀ name e, (loader.resolve name).run ≠ .error (.fault e)) →
      {d | ∃ name, (loader.resolve name).run = .ok d}.Finite →
      ∃ count, ∀ more, count ≤ more → Loader.Bounded { loader with supertypeCount := pure more }) ∧
    (∀ g : TypeGraph, g.loader.Bounded) ∧ bulkCategories.Nodup ∧ bulkCategories.length = 11 ∧
    ∀ (loader : Loader Id) (injectable : String), loader.Bounded →
      ∃ (count : TypeDescriptor → Nat) (added : TypeDescriptor → Registrations),
        (∀ d, ∃ (ancestors : List TypeDescriptor) (inherited : List Member),
          (loader.ancestors d).run = ⟨ancestors, none⟩ ∧
          loader.Gathers [d.name] d.supertypes ancestors ∧
          (inherited.map (·.key)).Nodup ∧
          (∀ member, member ∈ inherited ↔ Inherits d ancestors member) ∧
          count d = d.members.length + inherited.length ∧
          added d = .ofReached injectable d ancestors Set.univ) ∧
        ∀ (d : TypeDescriptor) (r : Register), (∀ member, r.sink.refusal member = none) →
          ∃ r' : Register, (r.registerAll loader injectable d).run = (.ok (count d), r') ∧
            r'.sink.registrations = r.sink.registrations ∪ added d ∧
            (∃ again : Register, (r'.registerAll loader injectable d).run = (.ok (count d), again) ∧
              again.sink.registrations = r'.sink.registrations) ∧
            ∀ other, ∃ both first swapped : Register,
              (r'.registerAll loader injectable other).run = (.ok (count other), both) ∧
              (r.registerAll loader injectable other).run = (.ok (count other), first) ∧
              (first.registerAll loader injectable d).run = (.ok (count d), swapped) ∧
              swapped.sink.registrations = both.sink.registrations := by
  refine ⟨Loader.exists_bounded, Loader.bounded_graph, by decide, rfl,
    fun loader injectable hloader => ?_⟩
  -- What is registered is a function of the type, so two registrations are two unions with fixed
  -- sets: the first again changes nothing, and the order of two does not matter.
  choose ancestors hancestors hgathers using Loader.exists_ancestors hloader
  let count (d : TypeDescriptor) : Nat := (reachableMembers d (ancestors d)).length
  let added (d : TypeDescriptor) : Registrations := .ofReached injectable d (ancestors d) Set.univ
  have hregister (d : TypeDescriptor) (r : Register)
      (hplain : ∀ member, r.sink.refusal member = none) :
      ∃ r', (r.registerAll loader injectable d).run = (.ok (count d), r') ∧
        (∀ member, r'.sink.refusal member = none) ∧
        r'.sink.registrations = r.sink.registrations ∪ added d :=
    exists_registerAll_of_plain (hancestors d) injectable hplain
  refine ⟨count, added,
    fun d => ⟨ancestors d, inheritedMembers d (ancestors d), hancestors d, hgathers d,
    nodup_inheritedFrom _ _, fun _ => mem_inheritedMembers_iff, List.length_append, rfl⟩,
    fun d r hplain => ?_⟩
  obtain ⟨r', hrun, hplain', hadded⟩ := hregister d r hplain
  obtain ⟨again, hagain, -, hsame⟩ := hregister d r' hplain'
  rw [hadded, Registrations.union_assoc, Registrations.union_self, ← hadded] at hsame
  refine ⟨r', hrun, hadded, ⟨again, hagain, hsame⟩, fun other => ?_⟩
  obtain ⟨both, hboth, -, hafter⟩ := hregister other r' hplain'
  obtain ⟨first, hfirst, hplainFirst, hbefore⟩ := hregister other r hplain
  obtain ⟨swapped, hswapped, -, hlast⟩ := hregister d first hplainFirst
  refine ⟨both, first, swapped, hboth, hfirst, hswapped, ?_⟩
  calc swapped.sink.registrations
    _ = r.sink.registrations ∪ added other ∪ added d := by rw [hlast, hbefore]
    _ = r.sink.registrations ∪ added d ∪ added other := by
      rw [Registrations.union_assoc, Registrations.union_comm (added other),
        Registrations.union_assoc]
    _ = both.sink.registrations := by rw [hafter, hadded]

/-- The upper end of a kite, with a tail that is its own business. -/
def kiteTop : TypeDescriptor :=
  { name := "kite.Top", module := "kite",
    members := [⟨"run", .method, "kite.Top", [], some 0⟩, ⟨"_tail", .field, "kite.Top", [], none⟩,
      ⟨"size", .field, "kite.Top", [], none⟩] }

/-- One side, which runs in its own way. -/
def kiteLeft : TypeDescriptor :=
  { name := "kite.Left", module := "kite", supertypes := ["kite.Top"],
    members := [⟨"run", .method, "kite.Left", [], some 0⟩] }

/-- The other side, which runs in another way. -/
def kiteRight : TypeDescriptor :=
  { name := "kite.Right", module := "kite", supertypes := ["kite.Top"],
    members := [⟨"run", .method, "kite.Right", [], some 0⟩,
      ⟨"stop", .method, "kite.Right", [], some 0⟩] }

/-- The lower end, which lists both sides and a name without a type. -/
def kiteBottom : TypeDescriptor :=
  { name := "kite.Bottom", module := "kite",
    supertypes := ["kite.Left", "kite.Right", "wind.Missing"],
    members := [⟨"__getstate__", .method, "kite.Bottom", [], some 0⟩] }

def kite : TypeGraph where
  types := [kiteTop, kiteLeft, kiteRight, kiteBottom]
  names_nodup := by decide

/-- One member of its own and three from above, also the second time. It runs as the left side
does. -/
theorem registerAll_exact_kite :
    kite.loader.Bounded ∧ (∀ member, ({} : Register).sink.refusal member = none) ∧
    ∃ once twice : Register,
      (Register.registerAll kite.loader defaultInjectable kiteBottom {}).run = (.ok 4, once) ∧
      (once.registerAll kite.loader defaultInjectable kiteBottom).run = (.ok 4, twice) ∧
      twice.sink.registrations = once.sink.registrations ∧
      "kite.Left.run" ∈ once.sink.registrations.members := by
  have hkite := Loader.bounded_graph kite
  obtain ⟨count, added, hadded, hruns⟩ :=
    registerAll_exact.2.2.2.2 kite.loader defaultInjectable hkite
  obtain ⟨once, honce, hsink, ⟨twice, htwice, hsame⟩, -⟩ := hruns kiteBottom {} fun _ => rfl
  have hcount : count kiteBottom = 4 := by
    have hfour : (Register.registerAll kite.loader defaultInjectable kiteBottom {}).run.1 = .ok 4 :=
      rfl
    rw [honce] at hfour
    exact Except.ok.inj hfour
  obtain ⟨ancestors, inherited, hancestors, -, -, -, -, hbottom⟩ := hadded kiteBottom
  have hup : ancestors = [kiteLeft, kiteRight, kiteTop] :=
    (congrArg Loading.Found.items hancestors).symm.trans (by decide)
  have hrun : Inherits kiteBottom ancestors ⟨"run", .method, "kite.Left", [], some 0⟩ :=
    ⟨by decide, by decide, [], kiteLeft, [kiteRight, kiteTop], hup, by decide, by simp⟩
  refine ⟨hkite, fun _ => rfl, once, twice, hcount ▸ honce, hcount ▸ htwice, hsame, ?_⟩
  rw [hsink, hbottom]
  exact .inr ⟨_, ⟨trivial, .inr (.inl hrun)⟩, rfl⟩

/-- A sink that refuses the members of some names gets just the others, wherever the refused ones
stand: the same types, categories and serialization as a sink that refuses nothing, and of the
members and the invocable ones those with other names. The members that the type declares or
inherits are counted, less the refused. -/
theorem registerAll_refused :
    (∀ loader : Loader Id, (∀ name e, (loader.resolve name).run ≠ .error (.fault e)) →
      {d | ∃ name, (loader.resolve name).run = .ok d}.Finite →
      ∃ count, ∀ more, count ≤ more → Loader.Bounded { loader with supertypeCount := pure more }) ∧
    ∀ (loader : Loader Id) (injectable : String) (d : TypeDescriptor) (rejected : Set String)
      [DecidablePred (· ∈ rejected)] (refusal : Member → Option String), loader.Bounded →
      (∀ member, refusal member = none ↔ member.name ∉ rejected) →
      ∃ (ancestors : List TypeDescriptor) (reachable : List Member) (plain picky : Register),
        (loader.ancestors d).run = ⟨ancestors, none⟩ ∧
        loader.Gathers [d.name] d.supertypes ancestors ∧
        reachable = reachableMembers d ancestors ∧
        (∀ member, member ∈ reachable ↔ member ∈ d.members ∨ Inherits d ancestors member) ∧
        (Register.registerAll loader injectable d {}).run = (.ok reachable.length, plain) ∧
        (Register.registerAll loader injectable d { sink := { refusal } }).run =
          (.ok (reachable.length - (reachable.filter (·.name ∈ rejected)).length), picky) ∧
        plain.sink.registrations = .ofReached injectable d ancestors Set.univ ∧
        picky.sink.registrations =
          .ofReached injectable d ancestors {member | member.name ∉ rejected} := by
  refine ⟨Loader.exists_bounded, fun loader injectable d rejected _ refusal hloader hrefusal => ?_⟩
  obtain ⟨ancestors, hancestors, hgathers⟩ := Loader.exists_ancestors hloader d
  obtain ⟨plain, hplain, -, hall⟩ :=
    exists_registerAll_of_plain hancestors injectable (r := {}) fun _ => rfl
  obtain ⟨picky, hpicky, -, hkept⟩ :=
    exists_registerAll hancestors injectable { sink := { refusal } }
  have hnames : {member | refusal member = none} = {member : Member | member.name ∉ rejected} :=
    Set.ext fun member => hrefusal member
  have hcount : ((reachableMembers d ancestors).filter fun member =>
      (refusal member).isNone).length =
      (reachableMembers d ancestors).length -
        ((reachableMembers d ancestors).filter (·.name ∈ rejected)).length := by
    have hsplit := List.length_eq_length_filter_add (l := reachableMembers d ancestors)
      (·.name ∈ rejected)
    have hothers : ((reachableMembers d ancestors).filter fun member => (refusal member).isNone) =
        (reachableMembers d ancestors).filter fun member => !decide (member.name ∈ rejected) := by
      refine List.filter_congr fun member _ => ?_
      rw [Bool.eq_iff_iff]
      simp [hrefusal]
    rw [hothers]
    omega
  dsimp only at hpicky hkept
  rw [hcount] at hpicky
  rw [Sink.registrations_new, Registrations.empty_union] at hall hkept
  rw [hnames] at hkept
  exact ⟨ancestors, _, plain, picky, hancestors, hgathers, rfl, fun _ => mem_reachableMembers_iff,
    hplain, hpicky, hall, hkept⟩

/-- Without what is named `run` there is one member less, and the others stay. -/
theorem registerAll_refused_kite :
    kite.loader.Bounded ∧
    (∀ member : Member, (if member.name = "run" then some "cannot link run" else none) = none ↔
      member.name ∉ ({"run"} : Set String)) ∧
    ∃ picky : Register,
      (Register.registerAll kite.loader defaultInjectable kiteBottom
        { sink := { refusal member := if member.name = "run" then some "cannot link run" else none }
          }).run = (.ok 3, picky) ∧
        "kite.Bottom.__getstate__" ∈ picky.sink.registrations.invocable := by
  have hkite := Loader.bounded_graph kite
  have hrefusal (member : Member) :
      (if member.name = "run" then some "cannot link run" else none) = none ↔
      member.name ∉ ({"run"} : Set String) := by
    simp
  obtain ⟨ancestors, reachable, plain, picky, hancestors, -, hreachable, -, -, hpicky, -, hkept⟩ :=
    registerAll_refused.2 kite.loader defaultInjectable kiteBottom {"run"}
      (fun member => if member.name = "run" then some "cannot link run" else none) hkite hrefusal
  have hup : ancestors = [kiteLeft, kiteRight, kiteTop] :=
    (congrArg Loading.Found.items hancestors).symm.trans (by decide)
  have hcount :
      reachable.length - (reachable.filter (·.name ∈ ({"run"} : Set String))).length = 3 := by
    rw [hreachable, hup]
    simp only [Set.mem_singleton_iff]
    decide
  refine ⟨hkite, hrefusal, picky, hcount ▸ hpicky, ?_⟩
  rw [hkept]
  exact ⟨_, ⟨by decide, .hook List.mem_cons_self rfl (by decide)⟩, rfl⟩

end Register
end RetentionPlan.Registration
