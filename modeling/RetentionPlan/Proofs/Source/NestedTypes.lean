import RetentionPlan.Proofs.Loading.Closure
import RetentionPlan.Proofs.Source.Described

/-!
# Types inside types

A type that is declared in the body of another goes by the name of the outer one, a dot and its own
name. Bare names among its bases are looked up at the top of the module all the same. So such a name
leads to a type beside it only by way of an import.
-/
namespace RetentionPlan.Source

open Loading (Loader answer)

/-! ## Tables of names -/

section
variable {α : Type} {id key : String} {value : α} {table bindings : List (String × α)}

theorem lookup_cons_eq_ite :
    ((id, value) :: table).lookup key = if key = id then some value else table.lookup key := by
  by_cases h : key = id
  · simp [h]
  · rw [if_neg h, List.lookup_cons, beq_false_of_ne h]

theorem lookup_bind :
    (bind id value table).lookup key = if key = id then some value else table.lookup key := by
  induction table with
  | nil => exact lookup_cons_eq_ite
  | cons entry rest ih =>
    obtain ⟨other, old⟩ := entry
    by_cases hother : other = id
    · rw [bind, if_pos hother, lookup_cons_eq_ite, lookup_cons_eq_ite, hother]
      split_ifs <;> rfl
    · rw [bind, if_neg hother, lookup_cons_eq_ite, lookup_cons_eq_ite, ih]
      -- The two names differ, so at most one of the two tests holds.
      by_cases h : key = id
      · simp only [h, if_true, if_neg (Ne.symm hother)]
      · simp only [if_neg h]

theorem lookup_foldl_bind :
    (bindings.foldl (fun table (id, value) => bind id value table) table).lookup key =
      (bindings.reverse.lookup key).or (table.lookup key) := by
  induction bindings generalizing table with
  | nil => simp
  | cons entry rest ih =>
    obtain ⟨id, value⟩ := entry
    rw [List.foldl_cons, ih, lookup_bind, List.reverse_cons, List.lookup_append, Option.or_assoc,
      lookup_cons_eq_ite]
    congr 1
    split_ifs <;> simp

/-- Of several bindings of a name the last one counts. -/
theorem lookup_bindAll : (bindAll bindings).lookup key = bindings.reverse.lookup key := by
  rw [bindAll, lookup_foldl_bind, List.lookup_nil, Option.or_none]

theorem lookup_bindAll_of_once (hmem : (key, value) ∈ bindings)
    (honce : ∀ other, (key, other) ∈ bindings → other = value) :
    (bindAll bindings).lookup key = some value := by
  rw [lookup_bindAll]
  cases hlookup : bindings.reverse.lookup key with
  | none =>
    have hnot := List.lookup_eq_none_iff.mp hlookup (key, value) (List.mem_reverse.mpr hmem)
    simp at hnot
  | some other =>
    obtain ⟨before, after, hbindings, -⟩ := List.lookup_eq_some_iff.mp hlookup
    have hother : (key, other) ∈ bindings := by
      rw [← List.mem_reverse, hbindings]
      simp
    rw [honce other hother]

end

/-! ## Declared types -/

def TypeStatement.statement (declared : TypeStatement) (id : String) : Stmt :=
  .type id declared.bases declared.keywords declared.decorators declared.body

section
variable {outer scope id : String} {host declared : TypeStatement}

theorem typesOf_eq_flatMap (body : List Stmt) :
    typesOf outer body = body.flatMap (Stmt.types outer) := by
  induction body with
  | nil => rfl
  | cons s rest ih => rw [typesOf, ih, List.flatMap_cons]

theorem mem_typesOf_of_mem {body : List Stmt} (h : declared.statement id ∈ body) :
    (outer ++ id, declared) ∈ typesOf outer body := by
  rw [typesOf_eq_flatMap]
  exact List.mem_flatMap.mpr ⟨_, h, List.mem_cons_self⟩

mutual
theorem mem_types_nested (s : Stmt) {scope : String} (hhost : (outer, host) ∈ s.types scope)
    (h : declared.statement id ∈ host.body) : (outer ++ "." ++ id, declared) ∈ s.types scope := by
  cases s with
  | type name bases keywords decorators body =>
    rw [Stmt.types, List.mem_cons] at hhost ⊢
    rcases hhost with heq | hinside
    · obtain ⟨rfl, rfl⟩ := Prod.mk.inj heq
      exact .inr (mem_typesOf_of_mem h)
    · exact .inr (mem_typesOf_nested body hinside h)
  | _ => cases hhost

theorem mem_typesOf_nested (ss : List Stmt) {scope : String}
    (hhost : (outer, host) ∈ typesOf scope ss) (h : declared.statement id ∈ host.body) :
    (outer ++ "." ++ id, declared) ∈ typesOf scope ss := by
  cases ss with
  | nil => cases hhost
  | cons s rest =>
    rw [typesOf, List.mem_append] at hhost ⊢
    exact hhost.imp (fun hfirst => mem_types_nested s hfirst h) fun hlater =>
      mem_typesOf_nested rest hlater h
end

end

section
variable {module : Module} {name id outer : String}

theorem qualifyAll_append (es others : List Expr) :
    module.qualifyAll (es ++ others) = module.qualifyAll es ++ module.qualifyAll others := by
  simp [Module.qualifyAll]

/-- A bare name that no import brings in has one dot before it, however deep the place where it
stands is. -/
theorem qualifyName_of_not_imported (h : module.import? id = none) :
    module.qualifyName id = module.name ++ "." ++ id ∨
      module.qualifyName id = "builtins." ++ id := by
  unfold Module.qualifyName
  rw [h]
  dsimp only
  split_ifs
  · exact .inl rfl
  · exact .inr rfl
  · exact .inl rfl

/-- A name below a type is another one than that directly below the module. -/
theorem below_module_ne_below_type : name ++ "." ++ id ≠ name ++ "." ++ (outer ++ "." ++ id) := by
  intro h
  have hlength := congrArg String.length ((String.append_right_inj _).mp h)
  simp only [String.length_append] at hlength
  have hdot : ".".length = 1 := rfl
  omega

theorem builtin_ne_below_type : "builtins." ++ id ≠ name ++ "." ++ (outer ++ "." ++ id) := by
  intro h
  rw [← String.append_assoc, String.append_left_inj] at h
  have hdots := congrArg (fun text : String => text.toList.count '.') h
  simp only [String.toList_append, List.count_append] at hdots
  have hbuiltins : "builtins.".toList.count '.' = 1 := by decide
  have hdot : ".".toList.count '.' = 1 := by decide
  omega

theorem qualifyName_eq_below_type_iff :
    module.qualifyName id = module.name ++ "." ++ (outer ++ "." ++ id) ↔
      module.import? id = some (module.name ++ "." ++ (outer ++ "." ++ id)) := by
  cases himport : module.import? id with
  | some target => rw [qualifyName_of_imported himport, Option.some.injEq]
  | none =>
    refine iff_of_false (fun h => ?_) nofun
    rcases qualifyName_of_not_imported himport with hbelow | hbuiltin
    · exact below_module_ne_below_type (hbelow.symm.trans h)
    · exact builtin_ne_below_type (hbuiltin.symm.trans h)

/-- What a bare name adds to a list of names. -/
theorem qualifyAll_name_eq_iff {q : String} (h : q ≠ "") :
    module.qualifyAll [.name id] = [q] ↔ module.qualifyName id = q := by
  have hentry : module.qualifyAll [.name id] = [module.qualifyName id].filter (· ≠ "") := rfl
  rw [hentry]
  constructor
  · intro heq
    have hmem := List.mem_of_mem_filter (heq ▸ List.mem_singleton_self q)
    exact (List.mem_singleton.mp hmem).symm
  · rintro rfl
    rw [List.filter_singleton, decide_eq_true h]
    rfl

/-- A bare name leads below a type only by way of an import. -/
theorem qualifyAll_name_eq_below_type_iff :
    module.qualifyAll [.name id] = [module.name ++ "." ++ (outer ++ "." ++ id)] ↔
      module.import? id = some (module.name ++ "." ++ (outer ++ "." ++ id)) := by
  rw [qualifyAll_name_eq_iff (by simp), qualifyName_eq_below_type_iff]

theorem qualifyAll_name_of_not_imported (h : module.import? id = none) :
    module.qualifyAll [.name id] = [module.name ++ "." ++ id] ∨
      module.qualifyAll [.name id] = ["builtins." ++ id] := by
  rw [qualifyAll_name_eq_iff (by simp), qualifyAll_name_eq_iff (by simp)]
  exact qualifyName_of_not_imported h

end

/-! ## Types side by side -/

/-- In the body of the type `outer` a type comes after another one, which it names among its bases,
and both are declared just once. -/
structure NamesSibling (body : List Stmt) (outer sibling inner : String)
    (named declared : TypeStatement) (firsts lasts : List Expr) : Prop where
  distinct : sibling ≠ inner
  nested : ∃ host before between after, (outer, host) ∈ typesOf "" body ∧
    host.body = before ++ named.statement sibling :: between ++ declared.statement inner :: after
  bases : declared.bases = firsts ++ .name sibling :: lasts
  once_named : ∀ other, (outer ++ "." ++ sibling, other) ∈ typesOf "" body → other = named
  once_declared : ∀ other, (outer ++ "." ++ inner, other) ∈ typesOf "" body → other = declared

section
variable {body : List Stmt} {outer sibling inner : String} {named declared : TypeStatement}
  {firsts lasts : List Expr}

/-- Both types are known by their names below the outer one. -/
theorem NamesSibling.types (h : NamesSibling body outer sibling inner named declared firsts lasts)
    (name : String) (path : Path) :
    (Module.ofStatements name path body).type? (outer ++ "." ++ sibling) = some named ∧
      (Module.ofStatements name path body).type? (outer ++ "." ++ inner) = some declared := by
  obtain ⟨host, before, between, after, hhost, hbody⟩ := h.nested
  have hnamed : named.statement sibling ∈ host.body := by simp [hbody]
  have hdeclared : declared.statement inner ∈ host.body := by simp [hbody]
  exact ⟨lookup_bindAll_of_once (mem_typesOf_nested body hhost hnamed) h.once_named,
    lookup_bindAll_of_once (mem_typesOf_nested body hhost hdeclared) h.once_declared⟩

end

section
variable {w : Workspace} {roots : List Path} {requested : String} {history : List Occasion}
  {d : TypeDescriptor}

/-- Where a type that a loader finds names another one beside it as a base, inside a type at any
depth, the name stands for that other type just if the module imports it by this very name. So the
type lists the other one, and is assignable to it and to all above it, if there is such an import.
Without any import the name stands for something at the top of the module or for a builtin, and the
type is assignable to the other one only by way of what its bases stand for. -/
theorem supertypes_of_resolve
    (h : answer ((sourceLoader w roots).resolve requested) (memory roots history) = .ok d) :
    Described d ∧
    ∀ (name : String) (path : Path) (body : List Stmt) (outer sibling inner : String)
      (named declared : TypeStatement)
      (firsts lasts : List Expr),
        NamesSibling body outer sibling inner named declared firsts lasts →
      let module := Module.ofStatements name path body
      let own := name ++ "." ++ (outer ++ "." ++ sibling)
      d = module.describe (outer ++ "." ++ inner) declared →
      module.type? (outer ++ "." ++ sibling) = some named ∧
      module.type? (outer ++ "." ++ inner) = some declared ∧
      d.supertypes = module.qualifyAll firsts ++ module.qualifyAll [.name sibling] ++
      module.qualifyAll lasts ∧
      (module.qualifyAll [.name sibling] = [own] ↔ module.import? sibling = some own) ∧
      (module.import? sibling = none →
        module.qualifyAll [.name sibling] = [name ++ "." ++ sibling] ∨
        module.qualifyAll [.name sibling] = ["builtins." ++ sibling]) ∧
      ∀ loader : Loader Id, loader.WellBehaved → (loader.resolve d.name).run = .ok d →
        ((loader.isAssignable d own).run = .ok true ↔ ∃ listed ∈ d.supertypes, own = listed ∨
          ∃ parent, (loader.resolve listed).run = .ok parent ∧
          (loader.isAssignable parent own).run = .ok true) ∧
        (module.import? sibling = some own → (loader.isAssignable d own).run = .ok true ∧
          ∀ parent target, (loader.resolve own).run = .ok parent →
            (loader.isAssignable parent target).run = .ok true →
            (loader.isAssignable d target).run = .ok true) := by
  refine ⟨described_of_resolve h, ?_⟩
  rintro name path body outer sibling inner named declared firsts lasts hsiblings module own rfl
  obtain ⟨hnamed, hdeclared⟩ := hsiblings.types name path
  have hsupertypes : (module.describe (outer ++ "." ++ inner) declared).supertypes =
      module.qualifyAll firsts ++ module.qualifyAll [.name sibling] ++ module.qualifyAll lasts := by
    have hbases : declared.bases = firsts ++ [.name sibling] ++ lasts := by
      rw [hsiblings.bases, List.append_assoc, List.singleton_append]
    rw [← qualifyAll_append, ← qualifyAll_append, ← hbases]
    rfl
  refine ⟨hnamed, hdeclared, hsupertypes, qualifyAll_name_eq_below_type_iff,
    qualifyAll_name_of_not_imported,
    fun loader hloader hd => ?_⟩
  have hother : own ≠ (module.describe (outer ++ "." ++ inner) declared).name := fun hsame =>
    hsiblings.distinct ((String.append_right_inj _).mp ((String.append_right_inj _).mp hsame))
  refine ⟨(Loader.isAssignable_iff_listed hloader hd own).trans (or_iff_right hother),
    fun himport => ?_⟩
  have hlisted : own ∈ (module.describe (outer ++ "." ++ inner) declared).supertypes := by
    rw [hsupertypes, qualifyAll_name_eq_below_type_iff.mpr himport]
    exact List.mem_append_left _ (List.mem_append_right _ List.mem_cons_self)
  have hassignable :=
    (Loader.isAssignable_iff_listed hloader hd own).mpr (.inr ⟨own, hlisted, .inl rfl⟩)
  exact ⟨hassignable,
    fun parent target hparent => Loader.isAssignable_trans hloader hd hassignable hparent⟩

/-- A type inside another one is found by its name where no module goes by the first parts of it. -/
theorem exists_resolve_of_finds_nested {root : Path} {name localName : String} {body : List Stmt}
    {declared : TypeStatement} (hroot : w.isFile root = .ok false)
    (h : finds w [root] name body = true)
    (hnone : ∀ cut ∈ cuts localName, freshSearch w [root] (name ++ "." ++ cut.1) = .ok none)
    (htype : (bindAll (typesOf "" body)).lookup localName = some declared) :
    ∃ path, answer ((sourceLoader w [root]).resolve (name ++ "." ++ localName)) (memory [root] []) =
      .ok ((Module.ofStatements name path body).describe localName declared) := by
  obtain ⟨path, hsearch⟩ := exists_search_of_finds h
  obtain ⟨file, base, hfirst, hmodule⟩ := exists_heldFirst hsearch
  have hlook := answer_look_declared (oneName_below root) hmodule hfirst htype
    (fun cut hcut => ⟨none, hnone cut hcut, rfl⟩) fun _ _ htouches =>
      base_eq_of_touches hroot htouches
  exact ⟨path, resolve_memory_nil (resolve_of_look hlook)⟩

/-- A class in the body of another, with the class before it as its base and a third one of that
name around. -/
def nestedText : String := "class X: pass\nclass P:\n class X: pass\n class K(X): pass"

/-- A class without bases. -/
def nestedBase : TypeStatement := ⟨[], [], [], [.other]⟩

def nestedType : TypeStatement := ⟨[.name "X"], [], [], [.other]⟩

def nestedBody : List Stmt :=
  [nestedBase.statement "X",
    .type "P" [] [] [] [nestedBase.statement "X", nestedType.statement "K"]]

theorem finds_nested : finds (alone nestedText) namesakesRoots "m" nestedBody = true := by
  decide +kernel

theorem namesSibling_nested : NamesSibling nestedBody "P" "X" "K" nestedBase nestedType [] [] where
  distinct := by decide
  nested := ⟨⟨[], [], [], _⟩, [], [], [], List.mem_cons_of_mem _ List.mem_cons_self, rfl⟩
  bases := rfl
  once_named other h := by
    simpa [nestedBody, typesOf, Stmt.types, TypeStatement.statement, nestedBase, nestedType] using h
  once_declared other h := by
    simpa [nestedBody, typesOf, Stmt.types, TypeStatement.statement, nestedBase, nestedType] using h

/-- No module goes by the name of the outer class. -/
theorem freshSearch_nested : ∀ cut ∈ cuts "P.K",
    freshSearch (alone nestedText) namesakesRoots ("m" ++ "." ++ cut.1) = .ok none := by
  have hcuts : cuts "P.K" = [("P", "K")] := by decide +kernel
  have hname : "m" ++ "." ++ "P" = "m.P" := by decide
  have hsearch : (freshSearch (alone nestedText) namesakesRoots "m.P").toOption.map Option.isNone =
      some true := by
    decide +kernel
  rw [hcuts, List.forall_mem_singleton, hname]
  obtain ⟨found, hfound, hnone⟩ := Option.map_eq_some_iff.mp hsearch
  rw [eq_ok_of_toOption hfound, Option.isNone_iff_eq_none.mp hnone]

def nestedModule (path : Path) : Module := .ofStatements "m" path nestedBody

def nestedGraph (path : Path) : TypeGraph where
  types := [(nestedModule path).describe "X" nestedBase,
    (nestedModule path).describe "P.X" nestedBase,
    (nestedModule path).describe "P.K" nestedType]
  names_nodup := by
    show ["m.X", "m.P.X", "m.P.K"].Nodup
    decide

theorem resolve_nestedGraph (path : Path) {t : TypeDescriptor} (h : t ∈ (nestedGraph path).types) :
    ((nestedGraph path).loader.resolve t.name).run = .ok t :=
  Loader.resolve_graph_of_some (TypeGraph.find?_of_mem h)

/-- The class at the top of the module has no bases, so it leads nowhere else. -/
theorem not_isAssignable_nestedGraph {path : Path} {parent : TypeDescriptor}
    (h : ((nestedGraph path).loader.resolve "m.X").run = .ok parent) :
    ((nestedGraph path).loader.isAssignable parent "m.P.X").run ≠ .ok true := by
  have htop : ((nestedGraph path).loader.resolve "m.X").run =
      .ok ((nestedModule path).describe "X" nestedBase) :=
    resolve_nestedGraph path List.mem_cons_self
  obtain rfl := Except.ok.inj (h.symm.trans htop)
  rw [Ne, Loader.isAssignable_iff_listed (Loader.wellBehaved_graph _) htop]
  rintro (hself | ⟨listed, hlisted, -⟩)
  · exact absurd hself (by decide : "m.P.X" ≠ "m.X")
  · cases hlisted

/-- The class is taken for a subtype of the class at the top of the module, and not of the one
beside it. -/
theorem supertypes_of_resolve_nested : ∃ (path : Path) (d : TypeDescriptor),
    answer ((sourceLoader (alone nestedText) namesakesRoots).resolve "m.P.K")
      (memory namesakesRoots []) = .ok d ∧
    d = (Module.ofStatements "m" path nestedBody).describe ("P" ++ "." ++ "K") nestedType ∧
    NamesSibling nestedBody "P" "X" "K" nestedBase nestedType [] [] ∧ d.supertypes = ["m.X"] ∧
    (nestedGraph path).loader.WellBehaved ∧ ((nestedGraph path).loader.resolve d.name).run = .ok d ∧
    (∃ beside, ((nestedGraph path).loader.resolve "m.P.X").run = .ok beside) ∧
    ((nestedGraph path).loader.isAssignable d "m.X").run = .ok true ∧
    ((nestedGraph path).loader.isAssignable d "m.P.X").run ≠ .ok true := by
  have hroot : (alone nestedText).isFile ⟨.root, []⟩ = .ok false := rfl
  obtain ⟨path, hresolve⟩ :=
    exists_resolve_of_finds_nested hroot finds_nested freshSearch_nested rfl
  have hinner : "m" ++ "." ++ "P.K" = "m.P.K" := by decide
  have hlocal : "P" ++ "." ++ "K" = "P.K" := by decide
  have hown : "m" ++ "." ++ ("P" ++ "." ++ "X") = "m.P.X" := by decide
  rw [hinner] at hresolve
  let d := (nestedModule path).describe "P.K" nestedType
  replace hresolve : answer ((sourceLoader (alone nestedText) namesakesRoots).resolve "m.P.K")
    (memory namesakesRoots []) = .ok d := hresolve
  have hdescribe : d = (nestedModule path).describe ("P" ++ "." ++ "K") nestedType := by rw [hlocal]
  have hsupertypes : d.supertypes = ["m.X"] := rfl
  have hgraph := Loader.wellBehaved_graph (nestedGraph path)
  have hd : ((nestedGraph path).loader.resolve d.name).run = .ok d :=
    resolve_nestedGraph path (by simp [nestedGraph, d])
  have hbeside := resolve_nestedGraph path (List.mem_cons_of_mem _ List.mem_cons_self)
  have hlisted : ((nestedGraph path).loader.isAssignable d "m.X").run = .ok true := by
    rw [Loader.isAssignable_iff_listed hgraph hd, hsupertypes]
    exact .inr ⟨"m.X", List.mem_cons_self, .inl rfl⟩
  obtain ⟨-, hnested⟩ := supertypes_of_resolve hresolve
  obtain ⟨-, -, -, -, -, hassignable⟩ :=
    hnested "m" path nestedBody "P" "X" "K" nestedBase nestedType [] [] namesSibling_nested
      hdescribe
  have hiff := (hassignable (nestedGraph path).loader hgraph hd).1
  rw [hown] at hiff
  refine ⟨path, d, hresolve, hdescribe, namesSibling_nested, hsupertypes, hgraph, hd, ⟨_, hbeside⟩,
    hlisted, ?_⟩
  rw [Ne, hiff, hsupertypes]
  rintro ⟨listed, hmem, hup⟩
  obtain rfl := List.mem_singleton.mp hmem
  rcases hup with hsame | ⟨parent, hparent, habove⟩
  · exact absurd hsame (by decide)
  · exact not_isAssignable_nestedGraph hparent habove

end

end RetentionPlan.Source
