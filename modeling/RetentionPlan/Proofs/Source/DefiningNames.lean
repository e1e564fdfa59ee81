import RetentionPlan.Proofs.Source.Search

/-!
# Names that types define for themselves

The type that a name leads to goes by the name of its module's file, which need not be the name that
was followed: a part of a name may stand for an initialiser, and such a part is left out of the name
of the module. Looking the type up again under its own name comes to the same file, unless a search
for that name comes to another file before.
-/
namespace RetentionPlan.Source

open Loading (LoadError Loader answer after)
open RetentionPlan.Path (PlainPart)

variable {w : Workspace} {roots : List Path} {name : String} {path base root : Path}

/-! ## What a query that succeeds has found -/

theorem freshModule_of_module? {module : Module}
    (h : answer (module? w path base).run [] = .ok (some module)) :
    freshModule w path base = .ok module := by
  rw [module?, ExceptT.run_tryCatch, Loading.answer_bind, ExceptT.run_map, Loading.answer_map,
    ← freshModule] at h
  cases hread : freshModule w path base with
  | ok module' =>
    rw [hread] at h
    exact congrArg Except.ok (Option.some.inj (Except.ok.inj h))
  | error e =>
    rw [hread] at h
    cases e <;> cases h

/-- A directory holds no file for a module's name, or it holds one, or looking into it ends the
search. -/
theorem lacks_or_holds_or_fails_below (hroot : w.isFile root = .ok false) :
    Lacks w name root ∨ (∃ path base, Holds w name root path base) ∨
      ∃ e, ∀ rest, freshSearch w (root :: rest) name = .error e := by
  have hsearch (rest : List Path) : freshSearch w (root :: rest) name =
      answer (findModule w name (root :: rest)).run [] := rfl
  rcases hfile : (Path.ofStrings (dottedParts name)).withSuffix ".py" with e | file
  · refine .inr (.inr ⟨.fault (.name e), fun rest => ?_⟩)
    simp [hsearch, findModule, hroot, accessible_ok_bind, hfile]
  rcases hthere : w.isFile (root.join file) with e | _ | _
  · refine .inr (.inr ⟨.fault (.access (.refused e)), fun rest => ?_⟩)
    simp [hsearch, findModule, hroot, accessible_ok_bind, hfile, hthere]
    rfl
  · rcases hpackage :
      w.isFile (root.join (Path.ofStrings (dottedParts name)) / Module.initialiserFile)
      with e | _ | _
    · refine .inr (.inr ⟨.fault (.access (.refused e)), fun rest => ?_⟩)
      simp [hsearch, findModule, hroot, accessible_ok_bind, hfile, hthere, hpackage]
      rfl
    · exact .inl (.below hroot hfile hthere hpackage)
    · exact .inr (.inl ⟨_, _, .initialiser hroot hfile hthere hpackage⟩)
  · exact .inr (.inl ⟨_, _, .file hroot hfile hthere⟩)

/-- A root holds no file for a module's name, or it holds one, or looking into it ends the
search. -/
theorem lacks_or_holds_or_fails (w : Workspace) (name : String) (root : Path) :
    Lacks w name root ∨ (∃ path base, Holds w name root path base) ∨
      ∃ e, ∀ rest, freshSearch w (root :: rest) name = .error e := by
  rcases hroot : w.isFile root with e | _ | _
  · exact .inr (.inr ⟨_, fun rest => by rw [freshSearch, findModule, hroot]; rfl⟩)
  · exact lacks_or_holds_or_fails_below hroot
  · by_cases hsource : root.suffix = ".py" ∧ root.stem = name
    · exact .inr (.inl ⟨_, _, .itself hroot hsource.1 hsource.2⟩)
    · exact .inl (.itself hroot hsource)

theorem exists_heldFirst {module : Module} (h : freshSearch w roots name = .ok (some module)) :
    ∃ path base, HeldFirst w roots name path base ∧ freshModule w path base = .ok module := by
  induction roots with
  | nil => cases h
  | cons root rest ih =>
    obtain hlacks | ⟨path, base, hholds⟩ | ⟨e, hfails⟩ := lacks_or_holds_or_fails w name root
    · rw [freshSearch, findModule_of_lacks hlacks] at h
      obtain ⟨path, base, ⟨before, other, after, rfl, hbefore, hother⟩, hmodule⟩ := ih h
      exact ⟨path, base,
        ⟨root :: before, other, after, rfl, List.forall_mem_cons.mpr ⟨hlacks, hbefore⟩, hother⟩,
        hmodule⟩
    · rw [freshSearch, findModule_of_holds hholds] at h
      exact ⟨path, base, ⟨[], root, rest, rfl, by simp, hholds⟩, freshModule_of_module? h⟩
    · cases (hfails rest).symm.trans h

theorem exists_type?_of_lead? {module : Module} {localName : String} {d : TypeDescriptor}
    (h : module.lead? name localName = some (.type d)) :
    ∃ declared, module.type? localName = some declared ∧
      d = module.describe localName declared := by
  unfold Module.lead? at h
  cases htype : module.type? localName with
  | some declared =>
    rw [htype] at h
    exact ⟨declared, rfl, (Lead.type.inj (Option.some.inj h)).symm⟩
  | none =>
    rw [htype] at h
    dsimp only at h
    split at h
    · cases h
    · split at h <;> cases h

section
variable {inv : Cache → Prop} {cache : Cache} {d : TypeDescriptor}

/-- A look-up that leads to a type has found a module that declares the type, by one of the cuts. -/
theorem exists_of_answer_leadOf {all : List (String × String)} (hnil : inv [])
    (hsteady : ∀ cut ∈ all, Steady inv (findModule w cut.1 roots).run) (hcache : inv cache)
    (h : answer (leadOf w roots name all).run cache = .ok (.type d)) :
    ∃ cut ∈ all, ∃ module declared, freshSearch w roots cut.1 = .ok (some module) ∧
      module.type? cut.2 = some declared ∧ d = module.describe cut.2 declared := by
  induction all generalizing cache with
  | nil => cases h
  | cons cut rest ih =>
    rw [List.forall_mem_cons] at hsteady
    obtain ⟨hkeeps, hsame⟩ := hsteady.1 cache hcache
    rw [leadOf, ExceptT.run_bind, Loading.answer_bind, hsame [] hnil, ← freshSearch] at h
    have later {r : Load Lead} (hr : r = leadOf w roots name rest)
        (h : answer r.run (after (findModule w cut.1 roots).run cache) = .ok (.type d)) :
        ∃ cut' ∈ cut :: rest, ∃ module declared, freshSearch w roots cut'.1 = .ok (some module) ∧
          module.type? cut'.2 = some declared ∧ d = module.describe cut'.2 declared := by
      obtain ⟨cut', hcut', hfound⟩ := ih hsteady.2 hkeeps (hr ▸ h)
      exact ⟨cut', List.mem_cons_of_mem cut hcut', hfound⟩
    cases hsearch : freshSearch w roots cut.1 with
    | error e =>
      rw [hsearch] at h
      cases h
    | ok found =>
      rw [hsearch] at h
      cases found with
      | none => exact later rfl h
      | some module =>
        simp only [Option.bind_some] at h
        cases hlead : module.lead? name cut.2 with
        | none =>
          rw [hlead] at h
          exact later rfl h
        | some lead =>
          rw [hlead] at h
          obtain rfl : lead = .type d := Except.ok.inj h
          obtain ⟨declared, htype, hd⟩ := exists_type?_of_lead? hlead
          exact ⟨cut, List.mem_cons_self, module, declared, hsearch, htype, hd⟩

/-- A chain that ends in a type has passed a name whose look-up leads to the type. -/
theorem exists_look_of_chain {hops : Nat} {visited : List String} (hnil : inv [])
    (hsteady : ∀ passed ∈ (chain w roots hops visited name cache).names,
      Steady inv (look w roots passed))
    (hcache : inv cache) (h : (chain w roots hops visited name cache).outcome = some (.ok d)) :
    ∃ passed ∈ (chain w roots hops visited name cache).names,
      answer (look w roots passed) [] = .ok (.type d) := by
  induction hops generalizing visited name cache with
  | zero => simp [chain] at h
  | succ hops ih =>
    have hlook := hsteady name mem_names_chain cache hcache
    simp only [chain] at h hsteady ⊢
    by_cases hvisited : name ∈ visited
    · simp [hvisited] at h
    · simp only [if_neg hvisited] at h hsteady ⊢
      rcases hlead : answer (look w roots name) cache with e | d' | target
      · simp [hlead] at h
      · simp only [hlead, Option.some.injEq, Except.ok.injEq] at h
        subst h
        exact ⟨name, List.mem_cons_self, (hlook.2 [] hnil).symm.trans hlead⟩
      · simp only [hlead, List.forall_mem_cons] at h hsteady ⊢
        obtain ⟨passed, hpassed, hfound⟩ := ih hsteady.2 hlook.1 h
        exact ⟨passed, List.mem_cons_of_mem name hpassed, hfound⟩

end

/-! ## Names of modules -/

/-- Is a module's name spelled as its file is counted? Its parts are components of paths, and the
last is not the stem of an initialiser. -/
structure Regular (name : String) : Prop where
  plain : ∀ part ∈ dottedParts name, PlainPart part
  last : (dottedParts name).getLast? ≠ some initialiserStem

theorem regular_of_plainPart {part : String} (h : PlainPart part) (hlast : part ≠ initialiserStem) :
    Regular part := by
  have hparts : dottedParts part = [part] := dottedParts_of_dotless h.dotless
  exact ⟨by simpa [hparts] using h, by simpa [hparts] using hlast⟩

/-- A file goes by its place below the directory that it is counted from. -/
theorem eq_dotted_of_moduleName {directories : List String} {file moduleName' : String}
    (h : moduleName (root.join ⟨.relative, directories ++ [file]⟩) root = .ok moduleName') :
    moduleParts (directories ++ [(Path.splitSuffix file).1]) ≠ [] ∧
      moduleName' = dotted (moduleParts (directories ++ [(Path.splitSuffix file).1])) := by
  simp only [moduleName, Path.relativeTo_join, Path.withSuffix, List.getLast?_concat,
    List.dropLast_concat, String.append_empty] at h
  split at h
  · cases h
  · next hne => exact ⟨hne, (Except.ok.inj h).symm⟩

/-- A file that is a root itself goes by its stem, counted from its directory. -/
theorem eq_stem_of_moduleName {moduleName' : String} (hsuffix : root.suffix = ".py")
    (h : moduleName root root.parent = .ok moduleName') : moduleName' = root.stem := by
  have hparts : root.parts ≠ [] := Path.parts_ne_nil_of_suffix (by rw [hsuffix]; decide)
  have hstem : root.stem = (Path.splitSuffix (root.parts.getLast hparts)).1 := by
    rw [Path.stem, Path.name, List.getLastD_eq_getLast?, List.getLast?_eq_some_getLast hparts,
      Option.getD_some]
  have hbelow : moduleName (root.parent.join ⟨.relative, [] ++ [root.parts.getLast hparts]⟩)
      root.parent = .ok moduleName' := by
    rw [List.nil_append, Path.join_parent hparts, h]
  obtain ⟨hne, rfl⟩ := eq_dotted_of_moduleName hbelow
  rw [List.nil_append, ← hstem] at hne ⊢
  unfold moduleParts at hne ⊢
  split at hne
  · exact absurd rfl hne
  · next hlast => rw [if_neg hlast, dotted, String.intercalate_singleton]

/-- A file that a search comes to goes by the name that was searched, if that is spelled as files
are counted. -/
theorem eq_of_moduleName_of_holds {moduleName' : String} (hregular : Regular name)
    (hholds : Holds w name root path base) (h : moduleName path base = .ok moduleName') :
    moduleName' = name := by
  obtain hnil | ⟨directories, stem, hparts⟩ := (dottedParts name).eq_nil_or_concat
  · exact absurd hnil (dottedParts_ne_nil name)
  rw [List.concat_eq_append] at hparts
  have hdotted : dotted (directories ++ [stem]) = name := by rw [← hparts, dotted_dottedParts]
  have hplace := Path.ofStrings_of_plain hregular.plain
  have hstem : PlainPart stem := hregular.plain stem (by simp [hparts])
  rw [hparts] at hplace
  cases hholds with
  | itself hroot hsuffix hstem => rw [eq_stem_of_moduleName hsuffix h, hstem]
  | file hroot hfile hthere =>
    rw [hparts, hplace, withSuffix_source hstem] at hfile
    obtain rfl := Except.ok.inj hfile
    rw [(eq_dotted_of_moduleName h).2, Path.splitSuffix_source hstem, moduleParts, if_neg, hdotted]
    exact hparts ▸ hregular.last
  | initialiser hroot hfile hnone hthere =>
    have hinit : PlainPart initialiserStem := ⟨by decide, by decide, by decide⟩
    have hpackage : base.join ⟨.relative, directories ++ [stem]⟩ / Module.initialiserFile =
        base.join ⟨.relative, directories ++ [stem] ++ [initialiserStem ++ ".py"]⟩ :=
      Path.join_div rfl (by decide) (by decide)
    rw [hparts, hplace, hpackage] at h
    rw [(eq_dotted_of_moduleName h).2, Path.splitSuffix_source hinit, moduleParts,
      if_pos List.getLast?_concat, List.dropLast_concat, hdotted]

/-! ## Looking a type up under its own name -/

/-- Does a name resolve to a type, whatever is remembered of the files as they are? -/
def Resolves (w : Workspace) (roots : List Path) (places : (path root : Path) → Prop)
    (name : String) (d : TypeDescriptor) : Prop :=
  ∀ cache, Faithful (· = w) places cache →
    answer ((sourceLoader w roots).resolve name) cache = .ok d

section
variable {places : (path root : Path) → Prop} {cache : Cache} {d : TypeDescriptor}

theorem resolves_of_look (hname : OneName places)
    (hplace : ∀ cut ∈ cuts name, ∀ root ∈ roots, ∀ path base, Candidate w cut.1 root path base →
      places path base)
    (hlook : answer (look w roots name) [] = .ok (.type d)) : Resolves w roots places name d := by
  intro cache hcache
  have hsteady := steady_look (stampsTell_of_eq fun _ h => h) hname rfl hplace
  have hfollow : (sourceLoader w roots).resolve name = (follow w roots (999 + 1) [] name).run := rfl
  rw [hfollow, follow_succ_run, if_neg List.not_mem_nil, Loading.answer_bind,
    (hsteady cache hcache).2 [] faithful_nil, hlook]
  rfl

/-- A name that a module declares resolves to the type there, if a search for the module comes to
its file first and no module of a longer name leads anywhere. -/
theorem resolves_declared (hname : OneName places) {module : Module} {localName : String}
    {declared : TypeStatement} (hmodule : freshModule w path base = .ok module)
    (hfirst : HeldFirst w roots module.name path base)
    (htype : module.type? localName = some declared)
    (hleadless : ∀ cut ∈ cuts localName, Leadless w roots (module.name ++ "." ++ localName)
      (module.name ++ "." ++ cut.1, cut.2))
    (htouches : ∀ path base,
      Touches roots ⟨w, .resolve (module.name ++ "." ++ localName)⟩ path base →
      places path base) :
    Resolves w roots places (module.name ++ "." ++ localName)
      (module.describe localName declared) := by
  have hlook := answer_look_declared hname hmodule hfirst htype hleadless htouches
  refine resolves_of_look hname (fun cut hcut root hroot path base hcandidate => ?_) hlook
  exact htouches path base (.followed rfl mem_names_chain hcut hroot hcandidate)

/-- Resolving a name leaves what is remembered faithful. -/
theorem faithful_after_resolve (hname : OneName places)
    (htouches : ∀ path base, Touches roots ⟨w, .resolve name⟩ path base → places path base)
    (hcache : Faithful (· = w) places cache) :
    Faithful (· = w) places (after ((sourceLoader w roots).resolve name) cache) := by
  have hkeeps := (reply_of_faithful (stampsTell_of_eq fun _ h => h) hname rfl htouches hcache).1
  rwa [reply, Loading.after_map] at hkeeps

/-- A name resolves as with a loader made anew, whatever is remembered of the files as they are. -/
theorem resolve_eq_of_faithful (hname : OneName places)
    (htouches : ∀ path base, Touches roots ⟨w, .resolve name⟩ path base → places path base)
    (hcache : Faithful (· = w) places cache) :
    answer ((sourceLoader w roots).resolve name) cache = ((freshLoader w roots).resolve name).run :=
  (follow_of_faithful (stampsTell_of_eq fun _ h => h) hname rfl hcache faithful_nil
    fun _ hpassed _ hcut _ hroot path base hcandidate =>
      htouches path base (.followed rfl hpassed hcut hroot hcandidate)).2

/-- A name that resolves to a type has a chain that ends in the type. -/
theorem outcome_of_resolve (hname : OneName places)
    (htouches : ∀ path base, Touches roots ⟨w, .resolve name⟩ path base → places path base)
    (hcache : Faithful (· = w) places cache)
    (h : answer ((sourceLoader w roots).resolve name) cache = .ok d) :
    (chain w roots maxReexports [] name []).outcome = some (.ok d) := by
  rw [resolve_eq_of_faithful hname htouches hcache, resolve_freshLoader, answer_follow] at h
  cases houtcome : (chain w roots maxReexports [] name []).outcome with
  | none => simp [houtcome] at h
  | some r =>
    rw [houtcome, Option.getD_some] at h
    rw [h]

/-- The type that a name resolves to is declared by the module of a file that a search for one of
the cuts of the last name of the chain comes to first. If the cut spells the module's name as the
file is counted, then the type has that last name for its own and resolves to itself by it, whatever
is remembered. In any case the own name resolves to what is declared in the file that a search for
the module by its own name comes to first, if that file declares such a type and no module of a
longer name leads anywhere: to the type itself, if that is the same file. So a type is not found by
its own name only if that name stands for another file, while the name that was followed has a part
for an initialiser or parts that paths do without. -/
theorem resolve_definingName (hname : OneName places)
    (htouches : ∀ path base, Touches roots ⟨w, .resolve name⟩ path base → places path base)
    (hcache : Faithful (· = w) places cache)
    (h : answer ((sourceLoader w roots).resolve name) cache = .ok d) :
    ∃ passed ∈ (chain w roots maxReexports [] name []).names, ∃ cut ∈ cuts passed,
      ∃ path base module declared, HeldFirst w roots cut.1 path base ∧
        freshModule w path base = .ok module ∧
        module.type? cut.2 = some declared ∧ d = module.describe cut.2 declared ∧
        (Regular cut.1 → module.name = cut.1) ∧
        (module.name = cut.1 → d.name = passed ∧ Resolves w roots places d.name d) ∧
        ∀ path' base' module' declared', HeldFirst w roots module.name path' base' →
          freshModule w path' base' = .ok module' → module'.name = module.name →
          module'.type? cut.2 = some declared' →
          (∀ inside ∈ cuts cut.2,
            Leadless w roots d.name (module.name ++ "." ++ inside.1, inside.2)) →
          (∀ path base, Touches roots ⟨w, .resolve d.name⟩ path base → places path base) →
          Resolves w roots places d.name (module'.describe cut.2 declared') := by
  have htell : StampsTell (· = w) := stampsTell_of_eq fun _ h => h
  have hplace : ∀ passed ∈ (chain w roots maxReexports [] name []).names, ∀ cut ∈ cuts passed,
      ∀ root ∈ roots, ∀ path base, Candidate w cut.1 root path base → places path base :=
    fun passed hpassed cut hcut root hroot path base hcandidate =>
      htouches path base (.followed rfl hpassed hcut hroot hcandidate)
  obtain ⟨passed, hpassed, hlook⟩ := exists_look_of_chain faithful_nil
    (fun passed hpassed => steady_look htell hname rfl (hplace passed hpassed)) faithful_nil
    (outcome_of_resolve hname htouches hcache h)
  obtain ⟨cut, hcut, module, declared, hsearch, htype, rfl⟩ := exists_of_answer_leadOf faithful_nil
    (fun cut hcut => steady_findModule htell hname rfl (hplace passed hpassed cut hcut))
      faithful_nil hlook
  obtain ⟨path, base, hfirst, hmodule⟩ := exists_heldFirst hsearch
  refine ⟨passed, hpassed, cut, hcut, path, base, module, declared, hfirst, hmodule, htype, rfl, ?_,
    ?_, ?_⟩
  · intro hregular
    obtain ⟨before, root, rest, -, -, hholds⟩ := hfirst
    exact eq_of_moduleName_of_holds hregular hholds (moduleName_of_freshModule hmodule)
  · intro hsame
    have hown : (module.describe cut.2 declared).name = passed := by
      rw [← eq_of_mem_cuts hcut, ← hsame]
      rfl
    rw [hown]
    exact ⟨rfl, resolves_of_look hname (hplace passed hpassed) hlook⟩
  · intro path' base' module' declared' hfirst' hmodule' hsame htype' hleadless htouches'
    have hown : (module.describe cut.2 declared).name = module'.name ++ "." ++ cut.2 := by
      rw [hsame]
      rfl
    rw [hown] at hleadless htouches' ⊢
    rw [← hsame] at hfirst' hleadless
    exact resolves_declared hname hmodule' hfirst' htype' hleadless htouches'

end

/-- A module and a package of one name, and a module that imports the former's type. -/
def namesakes : Workspace where
  top := .directory [("foo.py", .file oneType.toUTF8 0),
    ("foo", .directory [("__init__.py", .file "class B: pass".toUTF8 0)]),
    ("zoo.py", .file "from foo import A".toUTF8 0)]
  cwd := []
  home := none
  now := 0

/-- The directory at the root of all paths is the whole classpath. -/
def namesakesRoots : List Path := [⟨.root, []⟩]

theorem chain_namesakes :
    (chain namesakes namesakesRoots maxReexports [] "zoo.A" []).names = ["zoo.A", "foo.A"] := by
  decide +kernel

/-- An imported type is found again by its own name, with what is remembered of the first query. -/
theorem resolve_definingName_imported :
    ∃ d, answer ((sourceLoader namesakes namesakesRoots).resolve "zoo.A") [] = .ok d ∧
      d.name = "foo.A" ∧ answer ((sourceLoader namesakes namesakesRoots).resolve d.name)
        (after ((sourceLoader namesakes namesakesRoots).resolve "zoo.A") []) = .ok d := by
  have hname := oneName_below ⟨.root, []⟩
  have htouches : ∀ path base, Touches namesakesRoots ⟨namesakes, .resolve "zoo.A"⟩ path base →
      base = ⟨.root, []⟩ := fun path base h => base_eq_of_touches rfl h
  have hfound : (answer ((sourceLoader namesakes namesakesRoots).resolve "zoo.A") []).toOption.map
      (·.name) = some "foo.A" := by decide +kernel
  cases hresolve : answer ((sourceLoader namesakes namesakesRoots).resolve "zoo.A") [] with
  | error e => simp [hresolve, Except.toOption] at hfound
  | ok d =>
    rw [hresolve] at hfound
    obtain ⟨passed, hpassed, cut, hcut, path, base, module, declared, -, -, -, -, hregular, hfixed,
        -⟩ :=
      resolve_definingName hname htouches faithful_nil hresolve
    have hcuts : ∀ passed ∈ ["zoo.A", "foo.A"], ∀ cut ∈ cuts passed, cut.1 = "zoo" ∨
        cut.1 = "foo" := by
      decide +kernel
    have hspelled : Regular cut.1 := by
      rcases hcuts passed (chain_namesakes ▸ hpassed) cut hcut with h | h <;> rw [h] <;>
        exact regular_of_plainPart ⟨by decide, by decide, by decide⟩ (by decide)
    have hdname : d.name = "foo.A" := Option.some.inj hfound
    exact ⟨d, rfl, hdname,
      (hfixed (hregular hspelled)).2 _ (faithful_after_resolve hname htouches faithful_nil)⟩

/-- A part for the initialiser leads to the package, whose type goes by a name that stands for the
module. -/
theorem resolve_definingName_shadowed :
    (answer ((sourceLoader namesakes namesakesRoots).resolve "foo.__init__.B") []).toOption.map
      (·.name) = some "foo.B" ∧
      (answer ((sourceLoader namesakes namesakesRoots).resolve "foo.B") []).toOption.map (·.name) =
        none := by
  decide +kernel

end RetentionPlan.Source
