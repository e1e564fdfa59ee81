import RetentionPlan.Proofs.Registration.Members
import RetentionPlan.Proofs.Source.Members

/-!
# Constructors without arguments

Whether the constructor of a type is registered as invocable depends on how many arguments it needs.
Where a type defines the constructor more than once, the last definition is the one that calls
reach, but the first is the one that the descriptor tells of.
-/
namespace RetentionPlan.Registration.Register

open Loading (Loader Found answer)

section
variable {r : Register} {injectable q : String} {d : TypeDescriptor}

/-- A sink that refuses nothing makes all invocable that the type needs to be so, unless a fault
among the ancestors comes before. -/
theorem mem_invocable_addAll_iff (hplain : ∀ member, r.sink.refusal member = none)
    (ancestors : Found TypeDescriptor) :
    q ∈ (r.addAll injectable d ancestors).2.sink.invocable ↔ q ∈ r.sink.invocable ∨
      (∃ count, (r.addAll injectable d ancestors).1 = .ok count) ∧
        ∃ member, Callable injectable d member ∧ member.qualifiedName = q := by
  have hsets (s : Sink) : q ∈ s.invocable ↔ q ∈ s.registrations.invocable := Iff.rfl
  rw [hsets, hsets]
  cases hfault : ancestors.fault with
  | some fault =>
    obtain ⟨hdeclared, -⟩ := registrations_addDeclared d ancestors.items r
    simp only [addAll, hfault, hdeclared]
    simp [Registrations.ofMembers]
  | none =>
    have hends : ∃ count, (r.addAll injectable d ancestors).1 = .ok count := by
      simp only [addAll, hfault]
      exact ⟨_, rfl⟩
    obtain ⟨count, hcount⟩ := hends
    rw [registrations_addAll (Prod.ext hcount rfl), Registrations.ofType_eq_ofReached]
    simp [Registrations.ofReached, hcount, hplain]

variable {σ : Type} {loader : Loader (StateM σ)} {state : σ}

theorem answer_registerAll : answer (r.registerAll loader injectable d) state =
    r.addAll injectable d (answer (loader.ancestors d) state) :=
  rfl

/-- Without supertypes there is nothing to go wrong. -/
theorem exists_count_of_supertypes_eq_nil (h : d.supertypes = []) :
    ∃ count, (answer (r.registerAll loader injectable d) state).1 = .ok count := by
  have hancestors : answer (loader.ancestors d) state = .none := by
    rw [Loader.ancestors, Loading.answer_bind, h]
    rfl
  rw [answer_registerAll, hancestors]
  exact ⟨_, rfl⟩

end

end RetentionPlan.Registration.Register

namespace RetentionPlan.Source

open Loading (Loader answer)
open Registration (Register Callable)

/-- The parameters that take arguments by position and have no default. -/
def Parameters.undefaulted (ps : Parameters) : List String :=
  (ps.positionalOnly ++ ps.positional).take
    ((ps.positionalOnly ++ ps.positional).length - ps.defaults)

/-- How many parameters have to be given an argument; the receiver is left out. -/
def Parameters.mandatory (ps : Parameters) (bound : Bool) : Nat :=
  (if bound then ps.undefaulted.tail else ps.undefaulted).length +
    (ps.keywordOnly.filter (· = false)).length

/-- How many arguments a definition of the constructor needs. -/
def Module.needs (module : Module) (init : Parameters × List Expr) : Nat :=
  init.1.mandatory !(module.qualifyAll init.2).contains staticDecorator

section
variable {module : Module} {owner : String} {s : Stmt} {body : List Stmt} {member : Member}

theorem required_eq_mandatory (ps : Parameters) (bound : Bool) :
    ps.required bound = ps.mandatory bound := by
  have hkeywords : ps.keywordOnly.count false = (ps.keywordOnly.filter (· = false)).length := by
    rw [List.count_eq_length_filter]
    rfl
  unfold Parameters.required Parameters.mandatory Parameters.undefaulted
  rw [hkeywords]
  cases bound
  · simp only [Bool.false_eq_true, if_false, List.length_take, List.length_append]
    omega
  · simp only [if_true, List.length_tail, List.length_take, List.length_append]
    omega

theorem definedKey?_eq_init_iff :
    s.definedKey? = some (.constructor, "__init__") ↔ ∃ init, s.init? = some init := by
  cases s with
  | function name =>
    by_cases hname : name = "__init__"
    · subst hname
      exact iff_of_true rfl ⟨_, rfl⟩
    · simp [Stmt.definedKey?, Stmt.init?, hname]
  | _ => simp [Stmt.definedKey?, Stmt.init?]

/-- No function of the constructor's name is taken for a method. -/
theorem kind_of_definedKey?_init {kind : MemberKind} (h : s.definedKey? = some (kind, "__init__")) :
    kind = .constructor ∨ kind = .nestedType := by
  cases s with
  | function name =>
    simp only [Stmt.definedKey?, Option.some.injEq, Prod.mk.injEq] at h
    obtain ⟨rfl, rfl⟩ := h
    exact .inl rfl
  | type name =>
    simp only [Stmt.definedKey?, Option.some.injEq, Prod.mk.injEq] at h
    exact .inr h.1.symm
  | _ => cases h

theorem decorators_of_init? (module : Module) {init : Parameters × List Expr}
    (h : s.init? = some init) :
    s.decorators = init.2 ∧ module.arity? s = some (module.needs init) := by
  cases s with
  | function name parameters decorators body =>
    simp only [Stmt.init?, Option.ite_none_right_eq_some, Option.some.injEq] at h
    obtain ⟨-, rfl⟩ := h
    exact ⟨rfl, congrArg some (required_eq_mandatory ..)⟩
  | _ => cases h

/-- The constructor is told of by its first definition. -/
theorem mem_members_init_iff (module : Module) (owner : String) (body : List Stmt)
    (member : Member) :
    member ∈ module.members owner body ∧ member.key = (.constructor, "__init__") ↔
      ∃ first ∈ (body.filterMap Stmt.init?).head?,
        member = ⟨"__init__", .constructor, owner, module.qualifyAll first.2,
          some (module.needs first)⟩ := by
  simp only [List.head?_filterMap, Option.mem_def, List.findSome?_eq_some_iff]
  constructor
  · rintro ⟨hmember, hkey⟩
    have hkind : member.kind = .constructor := congrArg Prod.fst hkey
    have hname : member.name = "__init__" := congrArg Prod.snd hkey
    obtain ⟨before, s, after, hbody, hdefined, hmember, hearlier⟩ :=
      (mem_members_iff_of_isDefinition (.inl hkind)).mp hmember
    rw [hkey] at hdefined hearlier
    obtain ⟨first, hfirst⟩ := definedKey?_eq_init_iff.mp hdefined
    obtain ⟨hdecorators, harity⟩ := decorators_of_init? module hfirst
    refine ⟨first, ⟨before, s, after, hbody, hfirst, fun earlier hmem => ?_⟩, ?_⟩
    · have hnone := mt definedKey?_eq_init_iff.mpr (hearlier earlier hmem)
      exact Option.eq_none_iff_forall_ne_some.mpr fun init hinit => hnone ⟨init, hinit⟩
    · rw [hmember, hkind, hname, hdecorators, harity]
  · rintro ⟨first, ⟨before, s, after, hbody, hfirst, hearlier⟩, rfl⟩
    obtain ⟨hdecorators, harity⟩ := decorators_of_init? module hfirst
    refine ⟨(mem_members_iff_of_isDefinition (.inl rfl)).mpr ⟨before, s, after, hbody, ?_, ?_, ?_⟩,
      rfl⟩
    · exact definedKey?_eq_init_iff.mpr ⟨first, hfirst⟩
    · rw [hdecorators, harity]
    · intro earlier hmem hdefined
      obtain ⟨init, hinit⟩ := definedKey?_eq_init_iff.mp hdefined
      rw [hearlier earlier hmem] at hinit
      cases hinit

theorem name_of_definedKey?_constructor {name : String}
    (h : s.definedKey? = some (.constructor, name)) : name = "__init__" ∨ name = "__new__" := by
  cases s with
  | function id =>
    simp only [Stmt.definedKey?, Option.some.injEq, Prod.mk.injEq] at h
    obtain ⟨hkind, rfl⟩ := h
    have hconstructor : constructorNames.contains id = true := by
      by_contra hmethod
      rw [functionKind, if_neg hmethod] at hkind
      cases hkind
    simpa [constructorNames] using hconstructor
  | _ => simp [Stmt.definedKey?] at h

theorem declaringType_of_isDefinition (hmember : member ∈ module.members owner body)
    (hkind : MemberKind.IsDefinition member.kind) :
    member.declaringType = owner ∧ ∃ s ∈ body, s.definedKey? = some member.key := by
  obtain ⟨before, s, after, rfl, hdefined, heq, -⟩ :=
    (mem_members_iff_of_isDefinition hkind).mp hmember
  exact ⟨by rw [heq], s, by simp, hdefined⟩

theorem key_of_qualifiedName_init (hmember : member ∈ module.members owner body)
    (hkind : member.kind = .constructor ∨ member.kind = .method)
    (hqualified : member.qualifiedName = owner ++ "." ++ "__init__") :
    member.key = (.constructor, "__init__") := by
  have hdefinition : MemberKind.IsDefinition member.kind := hkind.imp_right .inl
  obtain ⟨howner, s, -, hdefined⟩ := declaringType_of_isDefinition hmember hdefinition
  have hname : member.name = "__init__" := by
    rw [Member.qualifiedName, howner] at hqualified
    exact (String.append_right_inj _).mp hqualified
  rw [Member.key, hname] at hdefined ⊢
  rcases kind_of_definedKey?_init hdefined with hconstructor | htype
  · rw [hconstructor]
  · rcases hkind with h | h <;> rw [h] at htype <;> cases htype

theorem exists_init_of_constructor
    (hnew : ∀ s ∈ body, s.definedKey? ≠ some (.constructor, "__new__"))
    (hmember : member ∈ module.members owner body) (hkind : member.kind = .constructor) :
    ∃ first, first ∈ (body.filterMap Stmt.init?).head? := by
  obtain ⟨-, s, hs, hdefined⟩ := declaringType_of_isDefinition hmember (.inl hkind)
  have hkey : member.key = (.constructor, member.name) := Prod.ext hkind rfl
  rw [hkey] at hdefined
  rcases name_of_definedKey?_constructor hdefined with hinit | hother
  · obtain ⟨first, hfirst, -⟩ := (mem_members_init_iff ..).mp ⟨hmember, hinit ▸ hkey⟩
    exact ⟨first, hfirst⟩
  · exact absurd (hother ▸ hdefined) (hnew s hs)

end

section
variable {module : Module} {localName injectable : String} {declared : TypeStatement}

/-- The constructor has to be invocable just if its first definition needs no arguments. Where there
is none, the constructor that comes with every type needs none. -/
theorem exists_callable_init_iff
    (hnew : ∀ s ∈ declared.body, s.definedKey? ≠ some (.constructor, "__new__")) :
    (∃ member, Callable injectable (module.describe localName declared) member ∧
        member.qualifiedName = (module.describe localName declared).name ++ "." ++ "__init__") ↔
      ∀ first ∈ (declared.body.filterMap Stmt.init?).head?, module.needs first = 0 := by
  have htold := mem_members_init_iff module (module.describe localName declared).name declared.body
  constructor
  · rintro ⟨member, hcallable, hqualified⟩ first hfirst
    have hmethod (hmember : member ∈ (module.describe localName declared).members)
        (hkind : member.kind = .method) : False := by
      have hkey := congrArg Prod.fst (key_of_qualifiedName_init hmember (.inr hkind) hqualified)
      cases hkind.symm.trans hkey
    cases hcallable with
    | constructor hmember hkind harity =>
      have hkey := key_of_qualifiedName_init hmember (.inl hkind) hqualified
      obtain ⟨other, hother, rfl⟩ := (htold member).mp ⟨hmember, hkey⟩
      obtain rfl := Option.mem_unique hother hfirst
      exact Option.some.inj harity
    | implicitConstructor hnone => exact absurd rfl (hnone _ ((htold _).mpr ⟨first, hfirst, rfl⟩).1)
    | injectable hmember hkind => exact (hmethod hmember hkind).elim
    | hook hmember hkind => exact (hmethod hmember hkind).elim
  · intro hneeds
    by_cases hinit : ∃ first, first ∈ (declared.body.filterMap Stmt.init?).head?
    · obtain ⟨first, hfirst⟩ := hinit
      have hmember := ((htold _).mpr ⟨first, hfirst, rfl⟩).1
      exact ⟨_, .constructor hmember rfl (congrArg some (hneeds first hfirst)), rfl⟩
    · exact ⟨_, .implicitConstructor fun member hmember hkind =>
        hinit (exists_init_of_constructor hnew hmember hkind), rfl⟩

end

section
variable {w : Workspace} {roots : List Path} {name : String} {history : List Occasion}
  {d : TypeDescriptor}

/-- A type that a loader finds has the constructor of the first definition in its body, with the
number of parameters that this one needs arguments for. It is the number of the last definition just
if both need equally many. So in a sink that refuses nothing the constructor becomes invocable just
if the first definition needs no arguments, or if the body defines no constructor at all. -/
theorem constructor_of_resolve
    (h : answer ((sourceLoader w roots).resolve name) (memory roots history) = .ok d) :
    Described d ∧
    ∀ (module : Module) (localName : String) (declared : TypeStatement),
      d = module.describe localName declared →
      let inits := declared.body.filterMap Stmt.init?
      (∀ member, member ∈ d.members ∧ member.key = (.constructor, "__init__") ↔
        ∃ first ∈ inits.head?,
        member = ⟨"__init__", .constructor, d.name, module.qualifyAll first.2,
          some (module.needs first)⟩) ∧ (∀ first ∈ inits.head?, ∀ last ∈ inits.getLast?,
        ((∃ member ∈ d.members, member.key = (.constructor, "__init__") ∧
            member.arity = some (module.needs last)) ↔
          module.needs first = module.needs last)) ∧
      ((∀ s ∈ declared.body, s.definedKey? ≠ some (.constructor, "__new__")) →
        ∀ {σ : Type} (loader : Loader (StateM σ)) (state : σ) (injectable : String)
          (register : Register), (∀ member, register.sink.refusal member = none) →
          let done := answer (register.registerAll loader injectable d) state
          d.name ++ "." ++ "__init__" ∈ done.2.sink.invocable ↔
            d.name ++ "." ++ "__init__" ∈ register.sink.invocable ∨
              (∃ count, done.1 = .ok count) ∧ ∀ first ∈ inits.head?, module.needs first = 0) := by
  refine ⟨described_of_resolve h, ?_⟩
  rintro module localName declared rfl inits
  have hmembers := mem_members_init_iff module (module.describe localName declared).name
    declared.body
  refine ⟨hmembers, fun first hfirst last _ => ?_,
    fun hnew σ loader state injectable register hplain => ?_⟩
  · constructor
    · rintro ⟨member, hmember, hkey, harity⟩
      obtain ⟨other, hother, rfl⟩ := (hmembers member).mp ⟨hmember, hkey⟩
      obtain rfl := Option.mem_unique hother hfirst
      exact Option.some.inj harity
    · intro hsame
      obtain ⟨hmember, hkey⟩ := (hmembers _).mpr ⟨first, hfirst, rfl⟩
      exact ⟨_, hmember, hkey, congrArg some hsame⟩
  · exact (Register.mem_invocable_addAll_iff hplain _).trans
      (or_congr_right (and_congr_right fun _ => exists_callable_init_iff hnew))

/-- A class whose constructor is defined again, without the argument. -/
def overloadText : String := "class C:\n def __init__(self, a): pass\n def __init__(self): pass"

def overloadBody : List Stmt :=
  [.function "__init__" ⟨[], ["self", "a"], 0, []⟩ [] [.other],
    .function "__init__" ⟨[], ["self"], 0, []⟩ [] [.other]]

theorem finds_overload :
    finds (alone overloadText) namesakesRoots "m" [.type "C" [] [] [] overloadBody] = true := by
  decide +kernel

/-- The constructor is not registered as invocable although the definition that counts needs no
arguments. -/
theorem constructor_of_resolve_overload : ∃ d module declared,
    answer ((sourceLoader (alone overloadText) namesakesRoots).resolve "m.C")
      (memory namesakesRoots []) = .ok d ∧
    d = Module.describe module "C" declared ∧
    (∃ last ∈ (declared.body.filterMap Stmt.init?).getLast?, module.needs last = 0) ∧
    (∃ member ∈ d.members, member.key = (.constructor, "__init__") ∧ member.arity = some 1) ∧
    (∀ s ∈ declared.body, s.definedKey? ≠ some (.constructor, "__new__")) ∧
    (∀ member, ({} : Register).sink.refusal member = none) ∧
    let done := answer (Register.registerAll (sourceLoader (alone overloadText) namesakesRoots)
      Registration.defaultInjectable d {}) (memory namesakesRoots [])
    (∃ count, done.1 = .ok count) ∧ d.name ++ "." ++ "__init__" ∉ done.2.sink.invocable := by
  obtain ⟨path, hresolve⟩ :=
    exists_resolve_of_finds finds_overload (by decide : '.' ∉ "C".toList) rfl
  let module := Module.ofStatements "m" path [.type "C" [] [] [] overloadBody]
  let declared : TypeStatement := ⟨[], [], [], overloadBody⟩
  have hname : "m" ++ "." ++ "C" = "m.C" := by decide
  rw [hname] at hresolve
  obtain ⟨-, hconstructor⟩ := constructor_of_resolve hresolve
  obtain ⟨hmembers, -, hinvocable⟩ := hconstructor module "C" declared rfl
  let first : Parameters × List Expr := (⟨[], ["self", "a"], 0, []⟩, [])
  have hfirst : first ∈ (declared.body.filterMap Stmt.init?).head? := rfl
  have hneeds : module.needs first = 1 := rfl
  obtain ⟨hmember, hkey⟩ := (hmembers _).mpr ⟨first, hfirst, rfl⟩
  have hnew : ∀ s ∈ declared.body, s.definedKey? ≠ some (.constructor, "__new__") := by
    simp [declared, overloadBody, Stmt.definedKey?]
  have hdone := hinvocable hnew (sourceLoader (alone overloadText) namesakesRoots)
    (memory namesakesRoots [])
    Registration.defaultInjectable {} fun _ => rfl
  refine ⟨_, module, declared, hresolve, rfl, ⟨_, rfl, rfl⟩,
    ⟨_, hmember, hkey, congrArg some hneeds⟩, hnew,
    fun _ => rfl, Register.exists_count_of_supertypes_eq_nil rfl, fun hmem => ?_⟩
  rcases hdone.mp hmem with hbefore | ⟨-, hzero⟩
  · cases hbefore
  · exact absurd (hzero first hfirst) (by rw [hneeds]; exact one_ne_zero)

end

end RetentionPlan.Source
