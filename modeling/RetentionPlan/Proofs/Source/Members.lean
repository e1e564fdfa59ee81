import Mathlib.Data.List.Flatten
import RetentionPlan.Proofs.Source.Described

/-!
# What the members of a type tell

The members of a type are read off the statements of its body one by one, and of two members of one
kind and name the first counts. So a function or a type that is defined more than once is known by
its first definition alone, and whether the type is abstract is told by the first definitions. The
fields of a type are those that its body assigns and those that a constructor assigns to its
receiver, at any depth.
-/
namespace RetentionPlan.Source

open Loading (answer)

/-! ## Statements inside statements -/

/-- Does a statement stand inside `s`, at any depth, or is it `s` itself? -/
inductive Stmt.Within (t : Stmt) : Stmt → Prop
  | itself : Within t t
  | inside {child s : Stmt} : child ∈ s.children → Within t child → Within t s

/-- Does `s` assign to the attribute of an object, at any depth? -/
def Stmt.Assigns (s : Stmt) (object field : String) : Prop :=
  ∃ t, Within t s ∧ .member (.name object) field ∈ t.targets

section
variable {t : Stmt}

theorem within_iff {s : Stmt} : t.Within s ↔ t = s ∨ ∃ child ∈ s.children, t.Within child := by
  constructor
  · intro h
    cases h with
    | itself => exact .inl rfl
    | inside hchild hwithin => exact .inr ⟨_, hchild, hwithin⟩
  · rintro (rfl | ⟨child, hchild, hwithin⟩)
    · exact .itself
    · exact .inside hchild hwithin

@[simp]
theorem mem_flatten_joinLevels {α : Type} {a : α} {as bs : List (List α)} :
    a ∈ (joinLevels as bs).flatten ↔ a ∈ as.flatten ∨ a ∈ bs.flatten := by
  induction as generalizing bs with
  | nil => simp [joinLevels]
  | cons first as ih =>
    cases bs with
    | nil => simp [joinLevels]
    | cons second bs =>
      simp only [joinLevels, List.flatten_cons, List.mem_append, ih]
      tauto

mutual
/-- The levels of a statement hold just the statements inside it. -/
theorem mem_levels_iff (s : Stmt) : t ∈ s.levels.flatten ↔ t.Within s := by
  rw [within_iff]
  cases s with
  | function name parameters decorators body =>
    simp [Stmt.levels, Stmt.children, mem_levelsOf_iff body]
  | type name bases keywords decorators body =>
    simp [Stmt.levels, Stmt.children, mem_levelsOf_iff body]
  | block body => simp [Stmt.levels, Stmt.children, mem_levelsOf_iff body]
  | assign | annotate | augment | importModules | importFrom | other =>
    simp [Stmt.levels, Stmt.children]

theorem mem_levelsOf_iff (ss : List Stmt) : t ∈ (levelsOf ss).flatten ↔ ∃ s ∈ ss, t.Within s := by
  cases ss with
  | nil => simp [levelsOf]
  | cons s rest =>
    rw [levelsOf, mem_flatten_joinLevels, mem_levels_iff s, mem_levelsOf_iff rest]
    simp
end

theorem attributeOf?_eq_some_iff {e : Expr} {receiver field : String} :
    e.attributeOf? receiver = some field ↔ e = .member (.name receiver) field := by
  cases e with
  | member value name =>
    cases value <;> simp [Expr.attributeOf?, Expr.isName]
  | _ => simp [Expr.attributeOf?]

/-- The fields of a constructor are the attributes of its first regular parameter. -/
theorem mem_receiverFields_iff {s : Stmt} {ps : Parameters} {field : String} :
    field ∈ s.receiverFields ps ↔
      ∃ receiver, ps.positional.head? = some receiver ∧ s.Assigns receiver field := by
  unfold Stmt.receiverFields
  cases ps.positional with
  | nil => simp
  | cons receiver rest =>
    simp only [List.mem_filterMap, List.mem_flatMap, mem_levels_iff, attributeOf?_eq_some_iff,
      List.head?_cons, Option.some.injEq, exists_eq_left', Stmt.Assigns]
    constructor
    · rintro ⟨_, ⟨t, hwithin, htarget⟩, rfl⟩
      exact ⟨t, hwithin, htarget⟩
    · rintro ⟨t, hwithin, htarget⟩
      exact ⟨_, ⟨t, hwithin, htarget⟩, rfl⟩

end

/-! ## Fields -/

def Stmt.init? : Stmt → Option (Parameters × List Expr)
  | .function name parameters decorators _ =>
    if name = "__init__" then some (parameters, decorators) else none
  | _ => none

/-- The parameter that takes the first argument given by position: the receiver of a method. -/
def Parameters.first? (ps : Parameters) : Option String :=
  (ps.positionalOnly ++ ps.positional).head?

def functionKind (name : String) : MemberKind :=
  if constructorNames.contains name then .constructor else .method

/-- Does a statement directly in the body of a type assign to the field, or list it among the
slots? -/
inductive Stmt.Lists : Stmt → String → Prop
  | assigned {targets : List Expr} {value : Expr} {id : String} : .name id ∈ targets →
      id ≠ permittedVariable → id ≠ slotsVariable → Lists (.assign targets value) id
  | slot {targets : List Expr} {value : Expr} {field : String} : .name slotsVariable ∈ targets →
      .text field ∈ value.elements → Lists (.assign targets value) field

section
variable {module : Module} {owner field : String}

theorem functionKind_ne_field (name : String) : functionKind name ≠ .field := by
  unfold functionKind
  split_ifs <;> exact nofun

theorem statementMembers_function {name : String} {parameters : Parameters} {decorators : List Expr}
    {body : List Stmt} :
    module.statementMembers owner (.function name parameters decorators body) =
      ⟨name, functionKind name, owner, module.qualifyAll decorators,
          some (parameters.required !(module.qualifyAll decorators).contains staticDecorator)⟩ ::
        (if name = "__init__" then
          (Stmt.function name parameters decorators body).receiverFields parameters
          else []).map fun field => ⟨field, .field, owner, [], none⟩ :=
  rfl

theorem text?_eq_some_iff {e : Expr} {value : String} : e.text? = some value ↔ e = .text value := by
  cases e <;> simp [Expr.text?]

theorem mem_keys_assignedMembers_iff {value target : Expr} :
    (.field, field) ∈ (module.assignedMembers owner value target).map (·.key) ↔
      Stmt.Lists (.assign [target] value) field := by
  constructor
  · intro h
    cases target with
    | name id =>
      simp only [Module.assignedMembers] at h
      split_ifs at h with hpermitted hslots
      · simp [Member.key] at h
      · subst hslots
        simp only [List.map_map, List.mem_map, List.mem_filterMap, text?_eq_some_iff] at h
        obtain ⟨name, ⟨e, he, rfl⟩, hname⟩ := h
        obtain rfl : name = field := congrArg Prod.snd hname
        exact .slot (List.mem_singleton.mpr rfl) he
      · simp only [List.map_cons, List.map_nil, List.mem_singleton, Member.key, Prod.mk.injEq,
          true_and] at h
        subst h
        exact .assigned (List.mem_singleton.mpr rfl) hpermitted hslots
    | _ => simp [Module.assignedMembers] at h
  · intro h
    cases h with
    | assigned htarget hpermitted hslots =>
      obtain rfl := List.mem_singleton.mp htarget
      simp [Module.assignedMembers, hpermitted, hslots, Member.key]
    | slot htarget helement =>
      obtain rfl := List.mem_singleton.mp htarget
      have hother : slotsVariable ≠ permittedVariable := by decide
      simp only [Module.assignedMembers, if_neg hother, if_true, List.map_map, List.mem_map,
        List.mem_filterMap]
      exact ⟨field, ⟨_, helement, rfl⟩, rfl⟩

theorem mem_keys_statementMembers_iff {s : Stmt} :
    (.field, field) ∈ (module.statementMembers owner s).map (·.key) ↔
      s.Lists field ∨ ∃ ps decorators, s.init? = some (ps, decorators) ∧
        field ∈ s.receiverFields ps := by
  -- Fields come from assignments in the body and from the constructor; other statements have none.
  cases s with
  | function name parameters decorators body =>
    have hkind : (MemberKind.field, field) ≠ (functionKind name, name) :=
      fun h => functionKind_ne_field name (congrArg Prod.fst h).symm
    have hlists : ¬ (Stmt.function name parameters decorators body).Lists field := fun h => by
      cases h
    rw [statementMembers_function, List.map_cons, List.mem_cons, or_iff_right hlists]
    refine (or_iff_right hkind).trans ?_
    by_cases hinit : name = "__init__" <;> simp [Stmt.init?, hinit, Member.key, Function.comp_def]
  | type name bases keywords decorators body =>
    have hlists : ¬ (Stmt.type name bases keywords decorators body).Lists field := fun h => by
      cases h
    simp [Module.statementMembers, Stmt.init?, Member.key, hlists]
  | assign targets value =>
    simp only [Module.statementMembers, Stmt.init?, List.map_flatMap, List.mem_flatMap,
      mem_keys_assignedMembers_iff, reduceCtorEq, false_and, exists_false, or_false]
    constructor
    · rintro ⟨target, htarget, h⟩
      cases h with
      | assigned hname hpermitted hslots =>
        obtain rfl := List.mem_singleton.mp hname
        exact .assigned htarget hpermitted hslots
      | slot hname helement =>
        obtain rfl := List.mem_singleton.mp hname
        exact .slot htarget helement
    · intro h
      cases h with
      | assigned hname hpermitted hslots =>
        exact ⟨_, hname, .assigned (List.mem_singleton.mpr rfl) hpermitted hslots⟩
      | slot hname helement => exact ⟨_, hname, .slot (List.mem_singleton.mpr rfl) helement⟩
  | annotate target =>
    have hlists : ¬ (Stmt.annotate target).Lists field := fun h => by cases h
    cases target <;> simp [Module.statementMembers, Stmt.init?, Member.key, hlists]
  | augment | importModules | importFrom | block | other =>
    refine iff_of_false (List.not_mem_nil) ?_
    rintro (h | ⟨ps, decorators, h, -⟩) <;> cases h

end

theorem mem_names_membersOf_iff {d : TypeDescriptor} {kind : MemberKind} {id : String} :
    id ∈ (d.membersOf kind).map (·.name) ↔ (kind, id) ∈ d.members.map (·.key) := by
  simp only [TypeDescriptor.membersOf, List.mem_map, List.mem_filter, decide_eq_true_eq, Member.key,
    Prod.mk.injEq]
  constructor
  · rintro ⟨member, ⟨hmember, hkind⟩, hname⟩
    exact ⟨member, hmember, hkind, hname⟩
  · rintro ⟨member, hmember, hkind, hname⟩
    exact ⟨member, ⟨hmember, hkind⟩, hname⟩

theorem nodup_names_membersOf {d : TypeDescriptor} (h : (d.members.map (·.key)).Nodup)
    (kind : MemberKind) : ((d.membersOf kind).map (·.name)).Nodup := by
  have hkeys : ((d.membersOf kind).map (·.key)).Nodup := h.sublist (List.filter_sublist.map _)
  have hpairs : (d.membersOf kind).map (·.key) =
      ((d.membersOf kind).map (·.name)).map (kind, ·) := by
    rw [List.map_map]
    refine List.map_congr_left fun member hmember => ?_
    simp only [TypeDescriptor.membersOf, List.mem_filter, decide_eq_true_eq] at hmember
    exact Prod.ext hmember.2 rfl
  rw [hpairs] at hkeys
  exact hkeys.of_map

section
variable {module : Module} {localName field : String} {declared : TypeStatement}

theorem mem_fields_describe_iff :
    field ∈ ((module.describe localName declared).membersOf .field).map (·.name) ↔
      ∃ s ∈ declared.body, s.Lists field ∨ ∃ ps decorators object, s.init? = some (ps, decorators) ∧
        ps.positional.head? = some object ∧ s.Assigns object field := by
  have hkeys : (.field, field) ∈ (module.describe localName declared).members.map (·.key) ↔
      (.field, field) ∈ (declared.body.flatMap
        (module.statementMembers (module.name ++ "." ++ localName))).map (·.key) :=
    mem_map_distinctBy
  rw [mem_names_membersOf_iff, hkeys, List.map_flatMap, List.mem_flatMap]
  refine exists_congr fun s => and_congr_right fun _ => ?_
  rw [mem_keys_statementMembers_iff]
  simp only [mem_receiverFields_iff, exists_and_left]

end

/-- Do the fields that a constructor gives rise to belong to its receiver? Whatever it assigns to on
the receiver is a field, and nothing is a field because it is assigned to on another object. -/
structure Stmt.ServesReceiver (s : Stmt) (ps : Parameters) (fields : List String) : Prop where
  complete : ∀ {receiver field}, ps.first? = some receiver → s.Assigns receiver field →
    field ∈ fields
  sound : ∀ {object field}, ps.positional.head? = some object → s.Assigns object field →
    ps.first? = some object

section
variable {s : Stmt} {ps : Parameters} {fields : List String}

theorem first?_of_positionalOnly_eq_nil (h : ps.positionalOnly = []) :
    ps.first? = ps.positional.head? := by
  rw [Parameters.first?, h, List.nil_append]

theorem servesReceiver_iff {receiver : String} {rest : List String}
    (h : ps.positionalOnly = receiver :: rest) :
    s.ServesReceiver ps fields ↔ (∀ field, s.Assigns receiver field → field ∈ fields) ∧
      ∀ object ∈ ps.positional.head?, object ≠ receiver → ∀ field, ¬ s.Assigns object field := by
  have hfirst : ps.first? = some receiver := by
    rw [Parameters.first?, h, List.cons_append, List.head?_cons]
  constructor
  · intro hserves
    refine ⟨fun field hassigns => hserves.complete hfirst hassigns,
      fun object hobject hne field hassigns => ?_⟩
    have hsame := hserves.sound hobject hassigns
    exact hne (Option.some.inj (hsame.symm.trans hfirst))
  · rintro ⟨hcomplete, hsound⟩
    refine ⟨fun {r field} hr hassigns => ?_, fun {object field} hobject hassigns => ?_⟩
    · obtain rfl : receiver = r := Option.some.inj (hfirst.symm.trans hr)
      exact hcomplete field hassigns
    · by_contra hne
      rw [hfirst, Option.some.injEq] at hne
      exact hsound object hobject (Ne.symm hne) field hassigns

end

section
variable {w : Workspace} {roots : List Path} {name : String} {history : List Occasion}
  {d : TypeDescriptor}

/-- A type that a loader finds is described by a module that declares it. Its fields, each once, are
those that are listed in its body and the attributes that a constructor assigns, at any depth, on
its first regular parameter. That parameter is the receiver unless there are positional-only ones.
With these, the fields belong to the receiver just if whatever is assigned on the receiver is a
field for another reason and nothing is assigned on the first regular parameter. -/
theorem fields_of_resolve
    (h : answer ((sourceLoader w roots).resolve name) (memory roots history) = .ok d) :
    Described d ∧
    ∀ (module : Module) (localName : String) (declared : TypeStatement),
      d = module.describe localName declared →
      let fields := (d.membersOf .field).map (·.name)
      fields.Nodup ∧
      (∀ field, field ∈ fields ↔ ∃ s ∈ declared.body, s.Lists field ∨
        ∃ ps decorators object, s.init? = some (ps, decorators) ∧
        ps.positional.head? = some object ∧
          s.Assigns object field) ∧
      ∀ s ∈ declared.body, ∀ ps decorators, s.init? = some (ps, decorators) →
        (ps.positionalOnly = [] → s.ServesReceiver ps fields) ∧
        ∀ receiver rest, ps.positionalOnly = receiver :: rest →
          (s.ServesReceiver ps fields ↔ (∀ field, s.Assigns receiver field → field ∈ fields) ∧
            ∀ object ∈ ps.positional.head?, object ≠ receiver →
            ∀ field, ¬ s.Assigns object field) := by
  refine ⟨described_of_resolve h, ?_⟩
  rintro module localName declared rfl fields
  refine ⟨nodup_names_membersOf (nodup_map_distinctBy _ _) _, fun field => mem_fields_describe_iff,
    fun s hs ps decorators hinit => ⟨fun hregular => ?_, fun receiver rest => servesReceiver_iff⟩⟩
  have hfirst := first?_of_positionalOnly_eq_nil hregular
  refine ⟨fun {receiver field} hreceiver hassigns => ?_, fun hobject _ => hfirst.trans hobject⟩
  rw [hfirst] at hreceiver
  exact mem_fields_describe_iff.mpr
    ⟨s, hs, .inr ⟨ps, decorators, receiver, hinit, hreceiver, hassigns⟩⟩

/-- A class whose constructor assigns on a positional-only receiver and on another parameter. -/
def receiverText : String := "class A:\n def __init__(self, /, other): self.x = other.y = 1"

def receiverInit : Stmt :=
  .function "__init__" ⟨["self"], ["other"], 0, []⟩ []
    [.assign [.member (.name "self") "x", .member (.name "other") "y"] .other]

theorem finds_receiver :
    finds (alone receiverText) namesakesRoots "m" [.type "A" [] [] [] [receiverInit]] = true := by
  decide +kernel

/-- What is assigned on the receiver is no field of the class, and what is assigned on the other
parameter is. -/
theorem fields_of_resolve_receiver : ∃ d module declared,
    answer ((sourceLoader (alone receiverText) namesakesRoots).resolve "m.A")
      (memory namesakesRoots []) = .ok d ∧
    d = Module.describe module "A" declared ∧ declared.body = [receiverInit] ∧
    receiverInit.Assigns "self" "x" ∧ "x" ∉ (d.membersOf .field).map (·.name) ∧
    receiverInit.Assigns "other" "y" ∧ "y" ∈ (d.membersOf .field).map (·.name) ∧
    ¬ receiverInit.ServesReceiver ⟨["self"], ["other"], 0, []⟩
      ((d.membersOf .field).map (·.name)) := by
  obtain ⟨path, hresolve⟩ :=
    exists_resolve_of_finds finds_receiver (by decide : '.' ∉ "A".toList) rfl
  let module := Module.ofStatements "m" path [.type "A" [] [] [] [receiverInit]]
  let declared : TypeStatement := ⟨[], [], [], [receiverInit]⟩
  have hname : "m" ++ "." ++ "A" = "m.A" := by decide
  rw [hname] at hresolve
  obtain ⟨-, hfields⟩ := fields_of_resolve hresolve
  obtain ⟨-, hmem, hinits⟩ := hfields module "A" declared rfl
  have hx : receiverInit.Assigns "self" "x" :=
    ⟨_, .inside List.mem_cons_self .itself, List.mem_cons_self⟩
  have hy : receiverInit.Assigns "other" "y" :=
    ⟨_, .inside List.mem_cons_self .itself, List.mem_cons_of_mem _ List.mem_cons_self⟩
  have hymem := (hmem "y").mpr
    ⟨receiverInit, List.mem_cons_self, .inr ⟨_, _, "other", rfl, rfl, hy⟩⟩
  have hserves := (hinits receiverInit List.mem_cons_self _ _ rfl).2 "self" [] rfl
  refine ⟨_, module, declared, hresolve, rfl, rfl, hx, ?_, hy, hymem, fun h => ?_⟩
  · have honly : ((module.describe "A" declared).membersOf .field).map (·.name) = ["y"] := rfl
    rw [honly]
    decide
  · exact (hserves.mp h).2 "other" rfl (by decide) "y" hy

end

/-! ## Functions and types -/

def MemberKind.IsDefinition (kind : MemberKind) : Prop :=
  kind = .constructor ∨ kind = .method ∨ kind = .nestedType

def Stmt.definedKey? : Stmt → Option (MemberKind × String)
  | .function name .. => some (functionKind name, name)
  | .type name .. => some (.nestedType, name)
  | _ => none

/-- The number of arguments that a call of a defined function has to give. -/
def Module.arity? (module : Module) : Stmt → Option Nat
  | .function _ parameters decorators _ =>
      some (parameters.required !(module.qualifyAll decorators).contains staticDecorator)
  | _ => none

def Stmt.decorators : Stmt → List Expr
  | .function _ _ decorators _ | .type _ _ _ decorators _ => decorators
  | _ => []

section
variable {module : Module} {owner : String} {s : Stmt} {body : List Stmt} {member : Member}

theorem mem_members_iff : member ∈ module.members owner body ↔
    ∃ before s after, body = before ++ s :: after ∧
      (module.statementMembers owner s).find? (·.key = member.key) = some member ∧
      ∀ earlier ∈ before, ∀ other ∈ module.statementMembers owner earlier,
        other.key ≠ member.key := by
  rw [Module.members, mem_distinctBy_iff, List.find?_flatMap, List.findSome?_eq_some_iff]
  simp only [List.find?_eq_none, decide_eq_true_eq]

theorem isDefinition_of_definedKey? {key : MemberKind × String} (h : s.definedKey? = some key) :
    MemberKind.IsDefinition key.1 := by
  cases s with
  | function name =>
    obtain rfl := Option.some.inj h
    by_cases hname : constructorNames.contains name
    · exact .inl (if_pos hname)
    · exact .inr (.inl (if_neg hname))
  | type =>
    obtain rfl := Option.some.inj h
    exact .inr (.inr rfl)
  | _ => cases h

/-- A definition declares the function or the type first, and then only fields. -/
theorem exists_statementMembers_eq (module : Module) (owner : String) {key : MemberKind × String}
    (h : s.definedKey? = some key) :
    ∃ fields, module.statementMembers owner s =
      ⟨key.2, key.1, owner, module.qualifyAll s.decorators, module.arity? s⟩ :: fields ∧
        ∀ other ∈ fields, other.kind = .field ∧ other.attributes = [] := by
  cases s with
  | function name parameters decorators body =>
    obtain rfl := Option.some.inj h
    refine ⟨_, statementMembers_function, fun other hother => ?_⟩
    obtain ⟨field, -, rfl⟩ := List.mem_map.mp hother
    exact ⟨rfl, rfl⟩
  | type =>
    obtain rfl := Option.some.inj h
    exact ⟨[], rfl, nofun⟩
  | _ => cases h

/-- Any other statement declares neither functions nor types. -/
theorem not_isDefinition_of_definedKey?_eq_none (h : s.definedKey? = none) {other : Member}
    (hother : other ∈ module.statementMembers owner s) :
    ¬ MemberKind.IsDefinition other.kind ∧ other.attributes = [] := by
  cases s with
  | function => cases h
  | type => cases h
  | assign targets value =>
    obtain ⟨target, -, hother⟩ := List.mem_flatMap.mp hother
    cases target with
    | name id =>
      simp only [Module.assignedMembers] at hother
      split_ifs at hother
      · obtain ⟨subtype, -, rfl⟩ := List.mem_map.mp hother
        exact ⟨by simp [MemberKind.IsDefinition], rfl⟩
      · obtain ⟨field, -, rfl⟩ := List.mem_map.mp hother
        exact ⟨by simp [MemberKind.IsDefinition], rfl⟩
      · obtain rfl := List.mem_singleton.mp hother
        exact ⟨by simp [MemberKind.IsDefinition], rfl⟩
    | _ => cases hother
  | annotate target =>
    cases target with
    | name id =>
      obtain rfl := List.mem_singleton.mp hother
      exact ⟨by simp [MemberKind.IsDefinition], rfl⟩
    | _ => cases hother
  | _ => cases hother

/-- Just the definitions of a function or a type declare a member of its key. -/
theorem exists_mem_statementMembers_iff (module : Module) (owner : String)
    {key : MemberKind × String} (hkey : MemberKind.IsDefinition key.1) :
    (∃ other ∈ module.statementMembers owner s, other.key = key) ↔ s.definedKey? = some key := by
  constructor
  · rintro ⟨other, hother, rfl⟩
    cases hdefined : s.definedKey? with
    | none => exact absurd hkey (not_isDefinition_of_definedKey?_eq_none hdefined hother).1
    | some key =>
      obtain ⟨fields, hmembers, hfields⟩ := exists_statementMembers_eq module owner hdefined
      rw [hmembers] at hother
      rcases List.mem_cons.mp hother with rfl | hfield
      · rfl
      · have hkind : other.key.1 = .field := (hfields other hfield).1
        simp [MemberKind.IsDefinition, hkind] at hkey
  · intro hdefined
    obtain ⟨fields, hmembers, -⟩ := exists_statementMembers_eq module owner hdefined
    exact ⟨_, hmembers ▸ List.mem_cons_self, rfl⟩

/-- A function or a type is what its first definition makes of it. -/
theorem mem_members_iff_of_isDefinition (hkind : MemberKind.IsDefinition member.kind) :
    member ∈ module.members owner body ↔ ∃ before s after, body = before ++ s :: after ∧
      s.definedKey? = some member.key ∧
      member = ⟨member.name, member.kind, owner, module.qualifyAll s.decorators, module.arity? s⟩ ∧
      ∀ earlier ∈ before, earlier.definedKey? ≠ some member.key := by
  rw [mem_members_iff]
  refine exists_congr fun before => exists_congr fun s => exists_congr fun after =>
    and_congr_right fun _ => ?_
  have hearlier : (∀ earlier ∈ before, ∀ other ∈ module.statementMembers owner earlier, other.key ≠
      member.key) ↔ ∀ earlier ∈ before, earlier.definedKey? ≠ some member.key := by
    refine forall₂_congr fun earlier _ => ?_
    have hkey : MemberKind.IsDefinition member.key.1 := hkind
    rw [Ne, ← exists_mem_statementMembers_iff module owner hkey]
    push Not
    rfl
  rw [hearlier, ← and_assoc]
  refine and_congr_left fun _ => ?_
  constructor
  · intro hfind
    have hdefined : s.definedKey? = some member.key :=
      (exists_mem_statementMembers_iff module owner hkind).mp
        ⟨member, List.mem_of_find?_eq_some hfind, rfl⟩
    obtain ⟨fields, hmembers, -⟩ := exists_statementMembers_eq module owner hdefined
    rw [hmembers, List.find?_cons_of_pos (by simp [Member.key])] at hfind
    exact ⟨hdefined, (Option.some.inj hfind).symm⟩
  · rintro ⟨hdefined, hmember⟩
    obtain ⟨fields, hmembers, -⟩ := exists_statementMembers_eq module owner hdefined
    rw [hmembers, List.find?_cons_of_pos (by simp [Member.key])]
    exact congrArg some hmember.symm

theorem isDefinition_of_mem_attributes {q : String} (hmember : member ∈ module.members owner body)
    (h : q ∈ member.attributes) : MemberKind.IsDefinition member.kind := by
  obtain ⟨before, s, after, -, hfind, -⟩ := mem_members_iff.mp hmember
  have hdeclared := List.mem_of_find?_eq_some hfind
  cases hdefined : s.definedKey? with
  | none =>
    rw [(not_isDefinition_of_definedKey?_eq_none hdefined hdeclared).2] at h
    cases h
  | some key =>
    have hkey := isDefinition_of_definedKey? hdefined
    obtain ⟨fields, hmembers, hfields⟩ := exists_statementMembers_eq module owner hdefined
    rw [hmembers] at hdeclared
    rcases List.mem_cons.mp hdeclared with rfl | hfield
    · exact hkey
    · rw [(hfields member hfield).2] at h
      cases h

theorem mem_qualifyAll_iff {es : List Expr} {q : String} :
    q ∈ module.qualifyAll es ↔ q ≠ "" ∧ ∃ e ∈ es, module.qualify e = some q := by
  simp [Module.qualifyAll, and_comm]

end

/-! ## Abstract types -/

/-- Is a type abstract by its bases or by its metaclass? -/
def Module.InheritsAbstract (module : Module) (declared : TypeStatement) : Prop :=
  (∃ base ∈ declared.bases, ∃ q ∈ abstractBases, module.qualify base = some q) ∨
    ∃ metaclass, declared.keywords.lookup "metaclass" = some metaclass ∧
      ∃ q ∈ abstractMetaclasses, module.qualify metaclass = some q

/-- Does a statement define a function or a type with a decorator that leaves it to subtypes? -/
def Module.LeavesAbstract (module : Module) (s : Stmt) : Prop :=
  ∃ decorator ∈ s.decorators, ∃ q ∈ abstractDecorators, module.qualify decorator = some q

section
variable {module : Module} {localName : String} {declared : TypeStatement}

theorem exists_abstract_member_iff (owner : String) {body : List Stmt} :
    (∃ member ∈ module.members owner body, ∃ q ∈ member.attributes, q ∈ abstractDecorators) ↔
      ∃ before s after, body = before ++ s :: after ∧ module.LeavesAbstract s ∧
        ∀ earlier ∈ before, earlier.definedKey? ≠ s.definedKey? := by
  have hnamed : ∀ q ∈ abstractDecorators, q ≠ "" := by decide
  constructor
  · rintro ⟨member, hmember, q, hq, habstract⟩
    have hkind := isDefinition_of_mem_attributes hmember hq
    obtain ⟨before, s, after, hbody, hdefined, heq, hearlier⟩ :=
      (mem_members_iff_of_isDefinition hkind).mp hmember
    rw [heq, mem_qualifyAll_iff] at hq
    obtain ⟨-, decorator, hdecorator, hqualify⟩ := hq
    exact ⟨before, s, after, hbody, ⟨decorator, hdecorator, q, habstract, hqualify⟩,
      hdefined ▸ hearlier⟩
  · rintro ⟨before, s, after, hbody, ⟨decorator, hdecorator, q, habstract, hqualify⟩, hearlier⟩
    obtain ⟨key, hkey⟩ : ∃ key, s.definedKey? = some key := by
      cases s with
      | function => exact ⟨_, rfl⟩
      | type => exact ⟨_, rfl⟩
      | _ => cases hdecorator
    rw [hkey] at hearlier
    let member : Member := ⟨key.2, key.1, owner, module.qualifyAll s.decorators, module.arity? s⟩
    have hmember : member ∈ module.members owner body :=
      (mem_members_iff_of_isDefinition (isDefinition_of_definedKey? hkey)).mpr
        ⟨before, s, after, hbody, hkey, rfl, hearlier⟩
    exact ⟨member, hmember, q,
      mem_qualifyAll_iff.mpr ⟨hnamed q habstract, decorator, hdecorator, hqualify⟩, habstract⟩

theorem abstract_describe_iff : (module.describe localName declared).abstract = true ↔
    module.InheritsAbstract declared ∨ ∃ before s after, declared.body = before ++ s :: after ∧
      module.LeavesAbstract s ∧ ∀ earlier ∈ before, earlier.definedKey? ≠ s.definedKey? := by
  have hnamed : ∀ q ∈ abstractBases, q ≠ "" := by decide
  have hbases : (module.qualifyAll declared.bases).any abstractBases.contains = true ↔
      ∃ base ∈ declared.bases, ∃ q ∈ abstractBases, module.qualify base = some q := by
    simp only [List.any_eq_true, mem_qualifyAll_iff, List.contains_iff_mem]
    constructor
    · rintro ⟨q, ⟨-, base, hbase, hqualify⟩, habstract⟩
      exact ⟨base, hbase, q, habstract, hqualify⟩
    · rintro ⟨base, hbase, q, habstract, hqualify⟩
      exact ⟨q, ⟨hnamed q habstract, base, hbase, hqualify⟩, habstract⟩
  have hmetaclass : (module.metaclass? declared).any abstractMetaclasses.contains = true ↔
      ∃ metaclass, declared.keywords.lookup "metaclass" = some metaclass ∧
        ∃ q ∈ abstractMetaclasses, module.qualify metaclass = some q := by
    simp only [Option.any_eq_true, Module.metaclass?, Option.bind_eq_some_iff,
      List.contains_iff_mem]
    constructor
    · rintro ⟨q, ⟨metaclass, hkeyword, hqualify⟩, habstract⟩
      exact ⟨metaclass, hkeyword, q, habstract, hqualify⟩
    · rintro ⟨metaclass, hkeyword, q, habstract, hqualify⟩
      exact ⟨q, ⟨metaclass, hkeyword, hqualify⟩, habstract⟩
  rw [← exists_abstract_member_iff (module.name ++ "." ++ localName), Module.InheritsAbstract,
    ← hbases, ← hmetaclass]
  simp only [Module.describe, Bool.or_eq_true, List.any_eq_true, List.contains_iff_mem]

end

section
variable {w : Workspace} {roots : List Path} {name : String} {history : List Occasion}
  {d : TypeDescriptor}

/-- A type that a loader finds is abstract just if it is so by its bases or its metaclass, or if the
first definition of some function or type in its body has an abstract decorator. So it is for any
definition in its body with such a decorator unless all of these come after others of their names
and nothing else makes the type abstract. -/
theorem abstract_of_resolve
    (h : answer ((sourceLoader w roots).resolve name) (memory roots history) = .ok d) :
    Described d ∧
    ∀ (module : Module) (localName : String) (declared : TypeStatement),
      d = module.describe localName declared →
      let inherits := module.InheritsAbstract declared
      let anywhere := ∃ s ∈ declared.body, module.LeavesAbstract s
      let first := ∃ before s after, declared.body = before ++ s :: after ∧
        module.LeavesAbstract s ∧ ∀ earlier ∈ before, earlier.definedKey? ≠ s.definedKey?
      (d.abstract = true ↔ inherits ∨ first) ∧ (d.abstract = true → inherits ∨ anywhere) ∧
        ((d.abstract = true ↔ inherits ∨ anywhere) ↔ (anywhere → inherits ∨ first)) := by
  refine ⟨described_of_resolve h, ?_⟩
  rintro module localName declared rfl inherits anywhere first
  have habstract : (module.describe localName declared).abstract = true ↔ inherits ∨ first :=
    abstract_describe_iff
  have hany : first → anywhere := by
    rintro ⟨before, s, after, hbody, hleaves, -⟩
    exact ⟨s, by simp [hbody], hleaves⟩
  rw [habstract]
  exact ⟨Iff.rfl, Or.imp_right hany, ⟨fun hall h => hall.mpr (.inr h),
    fun hfirst => ⟨Or.imp_right hany, fun hall => hall.elim .inl hfirst⟩⟩⟩

/-- A class that defines a function twice, the second time as one that subtypes have to supply. -/
def repeatedText : String :=
  "import abc\nclass B:\n def p(self): pass\n @abc.abstractmethod\n def p(self): pass"

def repeatedBody : List Stmt :=
  [.function "p" ⟨[], ["self"], 0, []⟩ [] [.other],
    .function "p" ⟨[], ["self"], 0, []⟩ [.member (.name "abc") "abstractmethod"] [.other]]

theorem finds_repeated : finds (alone repeatedText) namesakesRoots "m"
    [.importModules [⟨"abc", none⟩], .type "B" [] [] [] repeatedBody] = true := by
  decide +kernel

/-- The class is taken for a concrete one although its last definition of the function is
abstract. -/
theorem abstract_of_resolve_repeated : ∃ d module declared,
    answer ((sourceLoader (alone repeatedText) namesakesRoots).resolve "m.B")
      (memory namesakesRoots []) = .ok d ∧
    d = Module.describe module "B" declared ∧ d.abstract = false ∧
      ¬ module.InheritsAbstract declared ∧
    (∃ s ∈ declared.body, module.LeavesAbstract s) ∧
    ¬ ∃ before s after, declared.body = before ++ s :: after ∧ module.LeavesAbstract s ∧
      ∀ earlier ∈ before, earlier.definedKey? ≠ s.definedKey? := by
  obtain ⟨path, hresolve⟩ :=
    exists_resolve_of_finds finds_repeated (by decide : '.' ∉ "B".toList) rfl
  let module := Module.ofStatements "m" path
    [.importModules [⟨"abc", none⟩], .type "B" [] [] [] repeatedBody]
  let declared : TypeStatement := ⟨[], [], [], repeatedBody⟩
  have hname : "m" ++ "." ++ "B" = "m.B" := by decide
  rw [hname] at hresolve
  obtain ⟨-, habstract⟩ := abstract_of_resolve hresolve
  obtain ⟨hiff, -, -⟩ := habstract module "B" declared rfl
  have hconcrete : (module.describe "B" declared).abstract = false := rfl
  rw [hconcrete] at hiff
  have hneither := not_or.mp (mt hiff.mpr Bool.false_ne_true)
  have hqualify : module.qualify (.member (.name "abc") "abstractmethod") =
      some "abc.abstractmethod" := rfl
  exact ⟨_, module, declared, hresolve, rfl, hconcrete, hneither.1,
    ⟨_, List.mem_cons_of_mem _ List.mem_cons_self, _, List.mem_cons_self, _, List.mem_cons_self,
      hqualify⟩, hneither.2⟩

end

end RetentionPlan.Source
