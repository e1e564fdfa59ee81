import RetentionPlan.Proofs.Source.Members
import RetentionPlan.Proofs.Source.NestedTypes
import RetentionPlan.Proofs.Source.TypeNames

/-!
# Types that are declared again

A module may declare a type several times. Its last declaration counts, but the types inside the
earlier ones stay among the declared types of the module. So a type inside another one is declared
just if some declaration of the outer one holds it, whereas it is a member of the outer one just if
the last declaration does.
-/
namespace RetentionPlan.Source

/-- Is there a type of the name directly in the body of a type? -/
def TypeStatement.Holds (host : TypeStatement) (id : String) : Prop :=
  ∃ declared : TypeStatement, declared.statement id ∈ host.body

section
variable {outer other id key : String} {declared last : TypeStatement}

/-- A name with one more part than another is cut in one way only. -/
theorem eq_of_append_dot {id' : String} (hid : '.' ∉ id.toList) (hid' : '.' ∉ id'.toList)
    (h : outer ++ "." ++ id = other ++ "." ++ id') : outer = other ∧ id = id' := by
  have hparts := congrArg dottedParts h
  rw [dottedParts_append, dottedParts_append, dottedParts_of_dotless hid,
    dottedParts_of_dotless hid'] at hparts
  obtain ⟨houter, hlast⟩ := List.append_inj' hparts rfl
  refine ⟨?_, List.head_eq_of_cons_eq hlast⟩
  rw [← dotted_dottedParts outer, houter, dotted_dottedParts]

/-! ## Declared types -/

mutual
/-- A declared type stands directly among the statements, or in the body of another declared
type. -/
theorem exists_place_of_mem_types (s : Stmt) {scope : String} (hdotless : s.Dotless)
    (h : (key, declared) ∈ s.types scope) : ∃ id, '.' ∉ id.toList ∧
      ((key = scope ++ id ∧ declared.statement id = s) ∨
        ∃ outer host, key = outer ++ "." ++ id ∧ (outer, host) ∈ s.types scope ∧
          declared.statement id ∈ host.body) := by
  cases s with
  | type name bases keywords decorators body =>
    rw [Stmt.types, List.mem_cons] at h
    rcases h with heq | hinside
    · obtain ⟨rfl, rfl⟩ := Prod.mk.inj heq
      exact ⟨name, hdotless.1, .inl ⟨rfl, rfl⟩⟩
    · obtain ⟨id, hid, hplace⟩ := exists_place_of_mem_typesOf body hdotless.2 hinside
      refine ⟨id, hid, .inr ?_⟩
      rcases hplace with ⟨rfl, hbody⟩ | ⟨outer, host, rfl, hhost, hbody⟩
      · exact ⟨scope ++ name, _, rfl, List.mem_cons_self, hbody⟩
      · exact ⟨outer, host, rfl, List.mem_cons_of_mem _ hhost, hbody⟩
  | _ => cases h

theorem exists_place_of_mem_typesOf (ss : List Stmt) {scope : String} (hdotless : AllDotless ss)
    (h : (key, declared) ∈ typesOf scope ss) : ∃ id, '.' ∉ id.toList ∧
      ((key = scope ++ id ∧ declared.statement id ∈ ss) ∨
        ∃ outer host, key = outer ++ "." ++ id ∧ (outer, host) ∈ typesOf scope ss ∧
          declared.statement id ∈ host.body) := by
  cases ss with
  | nil => cases h
  | cons s rest =>
    rw [typesOf, List.mem_append] at h
    rcases h with hfirst | hlater
    · obtain ⟨id, hid, hplace⟩ := exists_place_of_mem_types s hdotless.1 hfirst
      refine ⟨id, hid, ?_⟩
      rcases hplace with ⟨hkey, rfl⟩ | ⟨outer, host, hkey, hhost, hbody⟩
      · exact .inl ⟨hkey, List.mem_cons_self⟩
      · exact .inr ⟨outer, host, hkey, List.mem_append_left _ hhost, hbody⟩
    · obtain ⟨id, hid, hplace⟩ := exists_place_of_mem_typesOf rest hdotless.2 hlater
      refine ⟨id, hid, ?_⟩
      rcases hplace with ⟨hkey, hmem⟩ | ⟨outer, host, hkey, hhost, hbody⟩
      · exact .inl ⟨hkey, List.mem_cons_of_mem _ hmem⟩
      · exact .inr ⟨outer, host, hkey, List.mem_append_right _ hhost, hbody⟩
end

/-- A type inside another one is declared just if some declaration of the outer one holds it. -/
theorem exists_mem_typesOf_nested_iff {body : List Stmt} (hdotless : AllDotless body)
    (hid : '.' ∉ id.toList) :
    (∃ declared, (outer ++ "." ++ id, declared) ∈ typesOf "" body) ↔
      ∃ host, (outer, host) ∈ typesOf "" body ∧ host.Holds id := by
  constructor
  · rintro ⟨declared, hmem⟩
    obtain ⟨id', hid', ⟨hkey, -⟩ | ⟨outer', host, hkey, hhost, hbody⟩⟩ :=
      exists_place_of_mem_typesOf body hdotless hmem
    · -- The name of a type at the top of the module has no dot.
      rw [String.empty_append] at hkey
      refine absurd ?_ hid'
      rw [← hkey]
      simp
    · obtain ⟨rfl, rfl⟩ := eq_of_append_dot hid hid' hkey
      exact ⟨host, hhost, declared, hbody⟩
  · rintro ⟨host, hhost, declared, hbody⟩
    exact ⟨declared, mem_typesOf_nested body hhost hbody⟩

end

section
variable {module : Module} {localName id : String} {declared last : TypeStatement}

theorem definedKey?_eq_nestedType_iff {s : Stmt} :
    s.definedKey? = some (.nestedType, id) ↔ ∃ declared :
    TypeStatement, declared.statement id = s := by
  cases s with
  | function name =>
    refine iff_of_false (fun h => ?_) (fun ⟨declared, h⟩ => by cases h)
    have hkind : functionKind name = .nestedType := congrArg Prod.fst (Option.some.inj h)
    unfold functionKind at hkind
    split_ifs at hkind
  | type name bases keywords decorators body =>
    constructor
    · intro h
      obtain rfl : name = id := congrArg Prod.snd (Option.some.inj h)
      exact ⟨⟨bases, keywords, decorators, body⟩, rfl⟩
    · rintro ⟨declared, h⟩
      obtain rfl : id = name := by injection h
      rfl
  | _ => exact iff_of_false (fun h => by cases h) (fun ⟨declared, h⟩ => by cases h)

theorem mem_nestedTypes_describe_iff :
    id ∈ ((module.describe localName declared).membersOf .nestedType).map (·.name) ↔
      declared.Holds id := by
  have hkey : MemberKind.IsDefinition (MemberKind.nestedType, id).1 := .inr (.inr rfl)
  have hmembers : (.nestedType, id) ∈ (module.describe localName declared).members.map (·.key) ↔
      ∃ s ∈ declared.body, ∃ member ∈ module.statementMembers (module.name ++ "." ++ localName) s,
        member.key = (.nestedType, id) := by
    rw [Module.describe, Module.members, mem_map_distinctBy, List.mem_map]
    simp only [List.mem_flatMap]
    tauto
  rw [mem_names_membersOf_iff, hmembers]
  simp only [exists_mem_statementMembers_iff module _ hkey, definedKey?_eq_nestedType_iff]
  constructor
  · rintro ⟨s, hs, nested, rfl⟩
    exact ⟨nested, hs⟩
  · rintro ⟨nested, hs⟩
    exact ⟨_, hs, nested, rfl⟩

/-- The last of several declarations is the one that a type is known by. -/
theorem lookup_bindAll_eq_some_iff {α : Type} {key : String} {value : α}
    {bindings : List (String × α)} :
    (bindAll bindings).lookup key = some value ↔
      ∃ before after, bindings = before ++ (key, value) :: after ∧ key ∉ after.map (·.1) := by
  rw [lookup_bindAll, List.lookup_eq_some_iff]
  constructor
  · rintro ⟨after, before, hall, hafter⟩
    refine ⟨before.reverse, after.reverse, ?_, fun hkey => ?_⟩
    · rw [← List.reverse_reverse bindings, hall]
      simp
    · obtain ⟨entry, hentry, rfl⟩ := List.mem_map.mp hkey
      simpa using hafter entry (List.mem_reverse.mp hentry)
  · rintro ⟨before, after, rfl, hafter⟩
    refine ⟨after.reverse, before.reverse, by simp, fun entry hentry => ?_⟩
    rw [bne_iff_ne]
    rintro rfl
    exact hafter (List.mem_map_of_mem (List.mem_reverse.mp hentry))

theorem isSome_lookup_iff {α : Type} {key : String} {table : List (String × α)} :
    (table.lookup key).isSome ↔ ∃ value, (key, value) ∈ table := by
  rw [Option.isSome_iff_ne_none, Ne, List.lookup_eq_none_iff]
  constructor
  · intro h
    by_contra hnone
    refine h fun entry hentry => bne_iff_ne.mpr ?_
    rintro rfl
    exact hnone ⟨entry.2, hentry⟩
  · rintro ⟨value, hmem⟩ h
    exact bne_iff_ne.mp (h _ hmem) rfl

theorem mem_typeNames_iff :
    module.name ++ "." ++ localName ∈ module.typeNames ↔ (module.type? localName).isSome := by
  rw [Module.type?, isSome_lookup_iff, Module.typeNames, List.mem_map]
  constructor
  · rintro ⟨⟨key, value⟩, hmem, hname⟩
    obtain rfl := (String.append_right_inj _).mp hname
    exact ⟨value, hmem⟩
  · rintro ⟨value, hmem⟩
    exact ⟨_, hmem, rfl⟩

/-- A type inside another one is declared just if some declaration of the outer one holds it, and it
is a nested type of the outer one just if the last declaration holds it. So what is a nested type is
declared, and what is declared is a nested type if and only if no earlier declaration of the outer
one holds a type that the last one does not. -/
theorem nested_declared_iff (hparsed : module.Parsed) (hlast : module.type? localName = some last)
    (hid : '.' ∉ id.toList) :
    let isMember := id ∈ ((module.describe localName last).membersOf .nestedType).map (·.name)
    let isDeclared := module.name ++ "." ++ (localName ++ "." ++ id) ∈ module.typeNames
    let declarations := typesOf "" module.body
    (∃ before after, declarations = before ++ (localName, last) :: after ∧
      localName ∉ after.map (·.1)) ∧
      (isMember ↔ last.Holds id) ∧
      (isDeclared ↔ ∃ host, (localName, host) ∈ declarations ∧ host.Holds id) ∧
      (isMember → isDeclared) ∧
      ((isDeclared ↔ isMember) ↔
        ∀ host, (localName, host) ∈ declarations → host.Holds id → last.Holds id) := by
  obtain ⟨name, path, text, body, htext, rfl⟩ := hparsed
  intro isMember isDeclared declarations
  have hplace : ∃ before after, declarations = before ++ (localName, last) :: after ∧
      localName ∉ after.map (·.1) :=
    lookup_bindAll_eq_some_iff.mp hlast
  have hmember : isMember ↔ last.Holds id := mem_nestedTypes_describe_iff
  -- The table of types is flat: an entry below the name may come from any declaration of the name.
  have hdeclared : isDeclared ↔ ∃ host, (localName, host) ∈ declarations ∧ host.Holds id := by
    have hlookup : (Module.ofStatements name path body).type? (localName ++ "." ++ id) =
        (typesOf "" body).reverse.lookup (localName ++ "." ++ id) := lookup_bindAll
    refine mem_typeNames_iff.trans
      (Iff.trans ?_ (exists_mem_typesOf_nested_iff (allDotless_of_statementsOf? htext) hid))
    simp only [hlookup, isSome_lookup_iff, List.mem_reverse]
    rfl
  have hmem : (localName, last) ∈ declarations := by
    obtain ⟨before, after, hall, -⟩ := hplace
    rw [hall]
    exact List.mem_append_right _ List.mem_cons_self
  refine ⟨hplace, hmember, hdeclared, fun h => hdeclared.mpr ⟨last, hmem, hmember.mp h⟩, ?_⟩
  rw [hmember, hdeclared]
  constructor
  · intro hiff host hhost hholds
    exact hiff.mp ⟨host, hhost, hholds⟩
  · intro hall
    exact ⟨fun ⟨host, hhost, hholds⟩ => hall host hhost hholds, fun h => ⟨last, hmem, h⟩⟩

/-- A class that is declared again without the class inside it. -/
def redeclaredText : String := "class P:\n class X: pass\nclass P: pass"

def bareType : TypeStatement := ⟨[], [], [], [.other]⟩

def redeclaredBody : List Stmt :=
  [.type "P" [] [] [] [bareType.statement "X"], bareType.statement "P"]

/-- The inner class of the first declaration is still declared, although the class has no such
member. -/
theorem nested_declared_iff_redeclared : ∃ path,
    freshSearch (alone redeclaredText) namesakesRoots "m" =
      .ok (some (.ofStatements "m" path redeclaredBody)) ∧
    let module := Module.ofStatements "m" path redeclaredBody
    module.Parsed ∧ module.type? "P" = some bareType ∧
      "m" ++ "." ++ ("P" ++ "." ++ "X") ∈ module.typeNames ∧
      "X" ∉ ((module.describe "P" bareType).membersOf .nestedType).map (·.name) := by
  have hfinds : finds (alone redeclaredText) namesakesRoots "m" redeclaredBody = true := by
    decide +kernel
  obtain ⟨path, hsearch⟩ := exists_search_of_finds hfinds
  obtain ⟨_, _, -, hmodule⟩ := exists_heldFirst hsearch
  have hparsed := parsed_of_freshModule hmodule
  have hlast : (Module.ofStatements "m" path redeclaredBody).type? "P" = some bareType := rfl
  have hdotless : '.' ∉ "X".toList := by decide
  obtain ⟨-, hmember, hdeclared, -⟩ := nested_declared_iff hparsed hlast hdotless
  refine ⟨path, hsearch, hparsed, hlast, hdeclared.mpr ?_, fun h => ?_⟩
  · exact ⟨⟨[], [], [], [bareType.statement "X"]⟩, List.mem_cons_self, bareType, List.mem_cons_self⟩
  · obtain ⟨declared, hdeclares⟩ := hmember.mp h
    cases List.mem_singleton.mp hdeclares

end

end RetentionPlan.Source
