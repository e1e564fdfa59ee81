import RetentionPlan.Proofs.FileTree.Paths
import RetentionPlan.Proofs.Source.DottedName
import RetentionPlan.Proofs.Source.Sessions

/-!
# What a search comes to first

A module is looked for below one root after the other, and a type below one cut of its name after
the other. So a module is found if its root holds the file and no root before it holds one for the
name, and a type that the module declares is found unless the name leads elsewhere by a longer cut.
-/
namespace RetentionPlan.Source

open Loading (Loader LoadError answer after)
open RetentionPlan.Path (PlainPart)

/-- The file that a root holds for a module's name, and the directory that the file is counted
from. -/
inductive Holds (w : Workspace) (name : String) (root : Path) : (path base : Path) → Prop
  | itself : w.isFile root = .ok true → root.suffix = ".py" → root.stem = name →
      Holds w name root root root.parent
  | file {file : Path} : w.isFile root = .ok false →
      (Path.ofStrings (dottedParts name)).withSuffix ".py" = .ok file →
      w.isFile (root.join file) = .ok true → Holds w name root (root.join file) root
  | initialiser {file : Path} : w.isFile root = .ok false →
      (Path.ofStrings (dottedParts name)).withSuffix ".py" = .ok file →
      w.isFile (root.join file) = .ok false →
      w.isFile (root.join (Path.ofStrings (dottedParts name)) / Module.initialiserFile) = .ok true →
      Holds w name root (root.join (Path.ofStrings (dottedParts name)) / Module.initialiserFile)
        root

inductive Lacks (w : Workspace) (name : String) (root : Path) : Prop
  | itself : w.isFile root = .ok true → ¬ (root.suffix = ".py" ∧ root.stem = name) →
      Lacks w name root
  | below {file : Path} : w.isFile root = .ok false →
      (Path.ofStrings (dottedParts name)).withSuffix ".py" = .ok file →
      w.isFile (root.join file) = .ok false →
      w.isFile (root.join (Path.ofStrings (dottedParts name)) / Module.initialiserFile) =
        .ok false → Lacks w name root

/-- Is a file the first that a search for a module's name comes to? -/
def HeldFirst (w : Workspace) (roots : List Path) (name : String) (path base : Path) : Prop :=
  ∃ before root rest, roots = before ++ root :: rest ∧ (∀ other ∈ before, Lacks w name other) ∧
    Holds w name root path base

variable {w : Workspace} {roots : List Path} {name : String} {path base root : Path}

theorem accessible_ok_bind {α β : Type} (a : α) (f : α → Load β) :
    (accessible (.ok a) >>= f) = f a :=
  pure_bind a f

theorem findModule_of_lacks (h : Lacks w name root) (rest : List Path) :
    findModule w name (root :: rest) = findModule w name rest := by
  rw [findModule]
  cases h with
  | itself hroot hother => simp [hroot, accessible_ok_bind, hother]
  | below hroot hfile hnone hpackage => simp [hroot, accessible_ok_bind, hfile, hnone, hpackage]

theorem findModule_of_holds (h : Holds w name root path base) (rest : List Path) :
    findModule w name (root :: rest) = module? w path base := by
  rw [findModule]
  cases h with
  | itself hroot hsuffix hstem => simp [hroot, accessible_ok_bind, hsuffix, hstem]
  | file hroot hfile hthere => simp [hroot, accessible_ok_bind, hfile, hthere]
  | initialiser hroot hfile hnone hthere => simp [hroot, accessible_ok_bind, hfile, hnone, hthere]

theorem findModule_of_heldFirst (h : HeldFirst w roots name path base) :
    findModule w name roots = module? w path base := by
  obtain ⟨before, root, rest, rfl, hbefore, hroot⟩ := h
  induction before with
  | nil => exact findModule_of_holds hroot rest
  | cons other before ih =>
    rw [List.forall_mem_cons] at hbefore
    rw [List.cons_append, findModule_of_lacks hbefore.1, ih hbefore.2]

section
variable {directories : List String} {stem : String}

def sourceFile (root : Path) (directories : List String) (stem : String) : Path :=
  root.join ⟨.relative, directories ++ [stem ++ ".py"]⟩

theorem withSuffix_source (hstem : PlainPart stem) :
    Path.withSuffix ⟨.relative, directories ++ [stem]⟩ ".py" =
      .ok ⟨.relative, directories ++ [stem ++ ".py"]⟩ := by
  simp [Path.withSuffix, Path.splitSuffix_of_dotless hstem.dotless]

/-- A root holds the file whose place a module's name tells. -/
theorem holds_sourceFile (hplain : ∀ part ∈ directories ++ [stem], PlainPart part)
    (hroot : w.isFile root = .ok false)
    (hthere : w.isFile (sourceFile root directories stem) = .ok true) :
    Holds w (dotted (directories ++ [stem])) root (sourceFile root directories stem) root := by
  have hparts : dottedParts (dotted (directories ++ [stem])) = directories ++ [stem] :=
    dottedParts_dotted (by simp) fun part hpart => (hplain part hpart).dotless
  refine .file hroot ?_ hthere
  rw [hparts, Path.ofStrings_of_plain hplain, withSuffix_source (hplain stem (by simp))]

end

/-- Below one directory every file that a name can lead to is counted from the directory. -/
theorem base_eq_of_touches (hroot : w.isFile root = .ok false)
    (h : Touches [root] ⟨w, .resolve name⟩ path base) : base = root := by
  cases h with
  | declared hquestion => cases hquestion
  | followed hquestion hpassed hcut hmem hcandidate =>
    obtain rfl := List.mem_singleton.mp hmem
    cases hcandidate with
    | itself hisFile => simp [hroot] at hisFile
    | file => rfl
    | initialiser => rfl

/-- No file is counted under two names from one directory. -/
theorem oneName_below (root : Path) : OneName fun _ base => base = root := by
  rintro path base base' name rfl rfl _ hname
  exact hname

/-- A loader made anew for every question. -/
def freshLoader (w : Workspace) (roots : List Path) : Loader Id where
  resolve name := answer ((sourceLoader w roots).resolve name) []
  declaredTypes path root := answer ((sourceLoader w roots).declaredTypes path root) []
  supertypeCount := answer (sourceLoader w roots).supertypeCount []

theorem resolve_freshLoader (w : Workspace) (roots : List Path) (name : String) :
    ((freshLoader w roots).resolve name).run =
      answer (follow w roots maxReexports [] name).run [] :=
  rfl

theorem declaredTypes_freshLoader (w : Workspace) (roots : List Path) (path root : Path) :
    ((freshLoader w roots).declaredTypes path root).run =
      Module.typeNames <$> freshModule w path root :=
  Reply.names.inj ((reply_declaredTypes w roots path root []).1.trans (by rw [recalled?_nil]; rfl))

def freshSearch (w : Workspace) (roots : List Path) (name : String) :
    Except LoadError (Option Module) :=
  answer (findModule w name roots).run []

theorem freshSearch_of_heldFirst {module : Module} (h : HeldFirst w roots name path base)
    (hmodule : freshModule w path base = .ok module) :
    freshSearch w roots name = .ok (some module) := by
  rw [freshSearch, findModule_of_heldFirst h, module?, ExceptT.run_tryCatch, Loading.answer_bind]
  have hread : answer (some <$> readModule w path base).run [] = .ok (some module) := by
    rw [ExceptT.run_map]
    exact congrArg (some <$> ·) hmodule
  rw [hread]
  rfl

/-- Does a cut of a name lead nowhere? -/
def Leadless (w : Workspace) (roots : List Path) (name : String) (cut : String × String) : Prop :=
  ∃ found, freshSearch w roots cut.1 = .ok found ∧ found.bind (·.lead? name cut.2) = none

section
variable {inv : Cache → Prop} {cut : String × String} {passed rest : List (String × String)}
  {cache : Cache}

theorem answer_leadOf_of_lead {module : Module} {lead : Lead}
    (hmodule : answer (findModule w cut.1 roots).run cache = .ok (some module))
    (hlead : module.lead? name cut.2 = some lead) :
    answer (leadOf w roots name (cut :: rest)).run cache = .ok lead := by
  rw [leadOf, ExceptT.run_bind, Loading.answer_bind, hmodule]
  simp only [Option.bind_some, hlead]
  rfl

/-- Cuts that lead nowhere are passed over. -/
theorem answer_leadOf_append (hnil : inv [])
    (hsteady : ∀ cut ∈ passed, Steady inv (findModule w cut.1 roots).run)
    (hleadless : ∀ cut ∈ passed, Leadless w roots name cut) (hcache : inv cache) :
    ∃ cache', inv cache' ∧ answer (leadOf w roots name (passed ++ rest)).run cache =
      answer (leadOf w roots name rest).run cache' := by
  induction passed generalizing cache with
  | nil => exact ⟨cache, hcache, rfl⟩
  | cons cut passed ih =>
    rw [List.forall_mem_cons] at hsteady hleadless
    obtain ⟨found, hfound, hnone⟩ := hleadless.1
    obtain ⟨hkeeps, hsame⟩ := hsteady.1 cache hcache
    obtain ⟨cache', hcache', heq⟩ := ih hsteady.2 hleadless.2 hkeeps
    refine ⟨cache', hcache', ?_⟩
    rw [← heq, List.cons_append, leadOf, ExceptT.run_bind, Loading.answer_bind, hsame [] hnil,
      ← freshSearch, hfound]
    simp only [hnone]

end

/-- A name is found at once if a look-up leads to a type. -/
theorem resolve_of_look {d : TypeDescriptor} (h : answer (look w roots name) [] = .ok (.type d)) :
    ((freshLoader w roots).resolve name).run = .ok d := by
  obtain ⟨hops, hhops⟩ : ∃ hops, maxReexports = hops + 1 := ⟨999, rfl⟩
  rw [resolve_freshLoader, answer_follow, hhops]
  simp [chain, h]

theorem exists_type? {module : Module} {localName : String}
    (h : localName ∈ module.types.map (·.1)) :
    ∃ declared, module.type? localName = some declared := by
  cases hnone : module.type? localName with
  | none =>
    obtain ⟨entry, hentry, rfl⟩ := List.mem_map.mp h
    exact absurd (List.lookup_eq_none_iff.mp hnone entry hentry) (by simp)
  | some declared => exact ⟨declared, rfl⟩

/-- A look-up of a name that a module declares leads to the type at once, if a search for the module
comes to the module's file first and no module of a longer name leads anywhere. -/
theorem answer_look_declared {places : (path root : Path) → Prop} (hname : OneName places)
    {module : Module}
    {localName : String} {declared : TypeStatement} (hmodule : freshModule w path base = .ok module)
    (hfirst : HeldFirst w roots module.name path base)
    (htype : module.type? localName = some declared)
    (hleadless : ∀ cut ∈ cuts localName, Leadless w roots (module.name ++ "." ++ localName)
      (module.name ++ "." ++ cut.1, cut.2))
    (htouches : ∀ path base,
      Touches roots ⟨w, .resolve (module.name ++ "." ++ localName)⟩ path base →
      places path base) :
    answer (look w roots (module.name ++ "." ++ localName)) [] =
      .ok (.type (module.describe localName declared)) := by
  let inv := Faithful (· = w) places
  let name := module.name ++ "." ++ localName
  let inside := (cuts localName).map fun cut => (module.name ++ "." ++ cut.1, cut.2)
  obtain ⟨shorter, hcuts⟩ : ∃ shorter, cuts name = inside ++ (module.name, localName) :: shorter :=
    exists_cuts_append module.name localName
  have hsteady : ∀ cut ∈ cuts name, Steady inv (findModule w cut.1 roots).run := by
    intro cut hcut
    refine steady_findModule (stampsTell_of_eq fun _ h => h) hname rfl ?_
    exact fun root hroot path base hcandidate =>
      htouches path base (.followed rfl mem_names_chain hcut hroot hcandidate)
  rw [hcuts, List.forall_mem_append, List.forall_mem_cons] at hsteady
  have hinside : ∀ cut ∈ inside, Leadless w roots name cut := List.forall_mem_map.mpr hleadless
  obtain ⟨cache, hcache, hpassed⟩ :=
    answer_leadOf_append faithful_nil hsteady.1 hinside faithful_nil
  have hfound : answer (findModule w module.name roots).run cache = .ok (some module) :=
    ((hsteady.2.1 cache hcache).2 [] faithful_nil).trans (freshSearch_of_heldFirst hfirst hmodule)
  rw [look, hcuts, hpassed]
  exact answer_leadOf_of_lead hfound (by simp [Module.lead?, htype])

/-- A name that a module declares is found as itself, if a search for the module comes to the
module's file first and no module of a longer name leads anywhere. -/
theorem resolve_declared {places : (path root : Path) → Prop} (hname : OneName places)
    {module : Module} {localName : String} (hmodule : freshModule w path base = .ok module)
    (hfirst : HeldFirst w roots module.name path base)
    (hdeclared : localName ∈ module.types.map (·.1))
    (hleadless : ∀ cut ∈ cuts localName, Leadless w roots (module.name ++ "." ++ localName)
      (module.name ++ "." ++ cut.1, cut.2))
    (htouches : ∀ path base,
      Touches roots ⟨w, .resolve (module.name ++ "." ++ localName)⟩ path base →
      places path base) :
    ∃ d, ((freshLoader w roots).resolve (module.name ++ "." ++ localName)).run = .ok d ∧
      d.name = module.name ++ "." ++ localName := by
  obtain ⟨declared, htype⟩ := exists_type? hdeclared
  have hlook := answer_look_declared hname hmodule hfirst htype hleadless htouches
  exact ⟨module.describe localName declared, resolve_of_look hlook, rfl⟩

end RetentionPlan.Source
