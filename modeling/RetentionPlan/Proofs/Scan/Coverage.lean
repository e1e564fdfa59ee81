import RetentionPlan.Proofs.Plan.Accounting
import RetentionPlan.Proofs.Plan.Faults
import RetentionPlan.Proofs.Source.Search

/-!
# What a scan finds

A scan asks for the types that the listed files declare and then for each of these by its name. So
it finds each name once, and what it finds are the names that declared names lead to: a declared
type is passed over if a search for its name leads elsewhere or nowhere, and found if it comes to
the type's own file first.
-/
namespace RetentionPlan

open Loading (Loader Fault Found LoadError Reading answer after)
open Source (Cache Faithful HeldFirst Leadless OneName cuts freshLoader freshModule sourceLoader)

namespace Scan

theorem eq_foundAmong_of_describeNames {loader : Loader Id} {names : List String}
    {ds : List TypeDescriptor} (h : (describeNames loader names).run = .ok ds) :
    ds = loader.foundAmong names := by
  induction names generalizing ds with
  | nil => exact (Except.ok.inj h).symm
  | cons name rest ih =>
    simp only [describeNames, Id.run_bind] at h
    rcases hfind : (loader.find? name).run with e | _ | d <;> simp only [hfind] at h
    · simp at h
    all_goals
      rcases hrest : (describeNames loader rest).run with e | more <;>
        simp only [Id.run_bind, hrest, Id.run_pure, reduceCtorEq, Except.ok.injEq] at h
      subst h
    · rw [Loader.foundAmong_cons_none hfind, ← ih hrest]
      rfl
    · rw [Loader.foundAmong_cons_some hfind, ← ih hrest]
      rfl

/-- The names that a file declares, none if it is no module. -/
def declaredIn (loader : Loader Id) (file : SourceFile) : List String :=
  match (loader.declaredTypes file.path file.root).run with
  | .ok names => names
  | .error _ => []

theorem eq_foundAmong_of_describeFile {loader : Loader Id} {file : SourceFile}
    {ds : List TypeDescriptor} (h : (describeFile loader file).run = .ok ds) :
    ds = loader.foundAmong (declaredIn loader file) := by
  simp only [describeFile, Id.run_bind] at h
  rcases hnames : (loader.declaredTypes file.path file.root).run with (_ | _) | names <;>
    simp only [hnames] at h
  · rw [declaredIn, hnames]
    exact (Except.ok.inj h).symm
  · simp at h
  · rw [declaredIn, hnames]
    exact eq_foundAmong_of_describeNames h

/-- If the files are described up to the end, just what their declared names lead to is found. -/
theorem mem_names_described {loader : Loader Id} {files : List SourceFile} {name : String}
    (h : (collect [] (files.map fun file => (describeFile loader file).run)).fault = none) :
    name ∈ (collect [] (files.map fun file => (describeFile loader file).run)).items.map (·.name) ↔
      ∃ file ∈ files, ∃ declared ∈ declaredIn loader file, ∃ d,
        (loader.resolve declared).run = .ok d ∧ d.name = name := by
  have hfound : ∀ file ∈ files,
      (describeFile loader file).run = .ok (loader.foundAmong (declaredIn loader file)) := by
    intro file hfile
    have hok := (fault_collect _ _).mp h _ (List.mem_map_of_mem hfile)
    cases hfile : (describeFile loader file).run with
    | error e => simp [hfile, Except.isOk, Except.toBool] at hok
    | ok ds => rw [eq_foundAmong_of_describeFile hfile]
  rw [mem_names_collect h, List.map_congr_left hfound]
  simp only [List.not_mem_nil, not_false_eq_true, true_and, List.mem_map, Except.ok.injEq]
  constructor
  · rintro ⟨_, ⟨file, hfile, rfl⟩, d, hd, rfl⟩
    obtain ⟨declared, hdeclared, hresolve⟩ := Loader.mem_foundAmong.mp hd
    exact ⟨file, hfile, declared, hdeclared, d, hresolve, rfl⟩
  · rintro ⟨file, hfile, declared, hdeclared, d, hresolve, rfl⟩
    exact ⟨_, ⟨file, hfile, rfl⟩, d, Loader.mem_foundAmong.mpr ⟨declared, hdeclared, hresolve⟩, rfl⟩

/-- What a scan that comes to its end gives: the types of the listed files, each name once. -/
theorem exists_files_of_scan {σ : Type} {loader : Loader (StateM σ)} {w : Workspace}
    {scanner : Scanner}
    {classpath roots : List Path} {s : σ} (hroots : classpath.mapM (resolvedRoot w) = .ok roots)
    (h : (answer (typeUniverse w scanner loader classpath) s).1.fault = none) :
    ∃ files journal, modules w scanner.exclusions roots = (.ok files, journal) ∧
      (answer (typeUniverse w scanner loader classpath) s).1 =
        collect [] (answer (files.mapM (describeFile loader)) s) := by
  simp only [typeUniverse, hroots] at h ⊢
  rcases hfiles : modules w scanner.exclusions roots with ⟨e | files, journal⟩
  · simp [hfiles] at h
  · simp only [hfiles] at h ⊢
    split_ifs at h ⊢
    · simp at h
    · exact ⟨files, journal, rfl, rfl⟩

section
variable {w : Workspace} {roots : List Path} {places : (path root : Path) → Prop}

/-- What is answered whatever is remembered, as long as it is remembered right. -/
def freshReading (w : Workspace) (places : (path root : Path) → Prop) : Reading (StateM Cache) :=
  Reading.invariant (Faithful (· = w) places) ⟨[], Source.faithful_nil⟩

/-- Going on after an answer that is always the same. -/
theorem freshReading_bind {α β : Type} {x : StateM Cache α} {y : Id α} {f : α → StateM Cache β}
    {g : α → Id β} (hx : (freshReading w places).Rel x y)
    (hf : (freshReading w places).Rel (f y.run) (g y.run)) :
    (freshReading w places).Rel (x >>= f) (y >>= g) := by
  intro cache hcache
  obtain ⟨hanswer, hkeeps⟩ := hx cache hcache
  rw [Loading.answer_bind, Loading.after_bind, hanswer]
  exact hf _ hkeeps

/-- A question that only touches files of one name is answered as if asked anew. -/
theorem rel_resolve (hname : OneName places) {name : String}
    (htouches : ∀ path root, Source.Touches roots ⟨w, .resolve name⟩ path root → places path root) :
    (freshReading w places).Rel ((sourceLoader w roots).resolve name)
      ((freshLoader w roots).resolve name) := by
  intro cache hcache
  obtain ⟨hkeeps, hsame⟩ :=
    Source.reply_of_faithful (Source.stampsTell_of_eq fun _ h => h) hname rfl htouches hcache
  rw [Source.Occasion.freshReply, Source.reply, Loading.answer_map, Loading.answer_map,
    Loading.after_map] at *
  exact ⟨Source.Reply.type.inj hsame, hkeeps⟩

theorem rel_declaredTypes (hname : OneName places) {path root : Path} (hplace : places path root) :
    (freshReading w places).Rel ((sourceLoader w roots).declaredTypes path root)
      ((freshLoader w roots).declaredTypes path root) := by
  intro cache hcache
  have htouches : ∀ path' root', Source.Touches roots ⟨w, .declaredTypes path root⟩ path' root' →
      places path' root' := by
    intro path' root' h
    obtain ⟨rfl, rfl⟩ := Source.touches_declaredTypes h
    exact hplace
  obtain ⟨hkeeps, hsame⟩ :=
    Source.reply_of_faithful (Source.stampsTell_of_eq fun _ h => h) hname rfl htouches hcache
  rw [Source.Occasion.freshReply, Source.reply, Loading.answer_map, Loading.answer_map,
    Loading.after_map] at *
  exact ⟨Source.Reply.names.inj hsame, hkeeps⟩

end

/-- A file that may be read when listed files are scanned, and the directory that it is counted
from. -/
inductive Touched (w : Workspace) (roots : List Path) (files : List SourceFile) :
    (path root : Path) → Prop
  | listed {file : SourceFile} : file ∈ files → Touched w roots files file.path file.root
  | followed {file : SourceFile} {name : String} {path root : Path} : file ∈ files →
      name ∈ declaredIn (freshLoader w roots) file →
      Source.Touches roots ⟨w, .resolve name⟩ path root → Touched w roots files path root

theorem rel_describeFile {w : Workspace} {roots : List Path} {files : List SourceFile}
    (hname : OneName (Touched w roots files)) {file : SourceFile} (hfile : file ∈ files) :
    (freshReading w (Touched w roots files)).Rel (describeFile (sourceLoader w roots) file)
      (describeFile (freshLoader w roots) file) := by
  refine freshReading_bind (rel_declaredTypes hname (.listed hfile)) ?_
  rcases hnames : ((freshLoader w roots).declaredTypes file.path file.root).run with (_ | _) | names
  · exact (freshReading w _).pure _
  · exact (freshReading w _).pure _
  · refine rel_describeNames fun name hmem => rel_resolve hname fun path root htouches => ?_
    exact .followed hfile (by rwa [declaredIn, hnames]) htouches

theorem answer_mapM_describeFile {w : Workspace} {roots : List Path} {files : List SourceFile}
    (hname : OneName (Touched w roots files)) :
    answer (files.mapM (describeFile (sourceLoader w roots))) [] =
      files.map fun file => (describeFile (freshLoader w roots) file).run := by
  have hall : (freshReading w (Touched w roots files)).Rel
      (files.mapM (describeFile (sourceLoader w roots)))
      (files.mapM (describeFile (freshLoader w roots))) :=
    Loader.Corresponds.mapM_loop (fun file hfile => rel_describeFile hname hfile) []
  rw [(hall [] Source.faithful_nil).1]
  exact List.idRun_mapM

def newScan (w : Workspace) (scanner : Scanner) (roots classpath : List Path) :
    Found TypeDescriptor :=
  (answer (typeUniverse w scanner (sourceLoader w roots) classpath) []).1

/-- The names of the types that a scan by a new loader finds. -/
def scannedNames (w : Workspace) (scanner : Scanner) (roots classpath : List Path) : List String :=
  (newScan w scanner roots classpath).items.map (·.name)

theorem mem_declaredIn {w : Workspace} (roots : List Path) {file : SourceFile}
    {module : Source.Module}
    (hmodule : freshModule w file.path file.root = .ok module) {localName : String}
    (h : localName ∈ module.types.map (·.1)) :
    module.name ++ "." ++ localName ∈ declaredIn (freshLoader w roots) file := by
  have hnames : ((freshLoader w roots).declaredTypes file.path file.root).run =
      .ok module.typeNames := by
    rw [Source.declaredTypes_freshLoader, hmodule]
    rfl
  rw [declaredIn, hnames]
  obtain ⟨entry, hentry, rfl⟩ := List.mem_map.mp h
  exact List.mem_map_of_mem hentry

/-- A scan that comes to its end finds each name once. If no file that it touches has two names, it
finds just the names of the types that declared names lead to; so a type that a listed file declares
is found, if a search for the name of its module comes to the file first and no module of a longer
name leads anywhere. -/
theorem scan_finds_resolvable {w : Workspace} {scanner : Scanner} {roots classpath : List Path}
    (hroots : classpath.mapM (resolvedRoot w) = .ok roots)
    (hends : (newScan w scanner roots classpath).fault = none) :
    (scannedNames w scanner roots classpath).Nodup ∧
    ∃ files journal, modules w scanner.exclusions roots = (.ok files, journal) ∧
      (OneName (Touched w roots files) →
        (∀ name, name ∈ scannedNames w scanner roots classpath ↔
          ∃ file ∈ files, ∃ declared ∈ declaredIn (freshLoader w roots) file, ∃ d,
            ((freshLoader w roots).resolve declared).run = .ok d ∧ d.name = name) ∧
        ∀ file ∈ files, ∀ module, freshModule w file.path file.root = .ok module →
          HeldFirst w roots module.name file.path file.root →
          ∀ localName ∈ module.types.map (·.1),
            (∀ cut ∈ cuts localName, Leadless w roots (module.name ++ "." ++ localName)
              (module.name ++ "." ++ cut.1, cut.2)) →
            module.name ++ "." ++ localName ∈ scannedNames w scanner roots classpath) := by
  obtain ⟨files, journal, hfiles, hscan⟩ := exists_files_of_scan hroots hends
  refine ⟨?_, files, journal, hfiles, fun hname => ?_⟩
  · rw [scannedNames, newScan, hscan]
    exact (nodup_names_collect _ _).1
  · rw [answer_mapM_describeFile hname] at hscan
    have hmem : ∀ name, name ∈ scannedNames w scanner roots classpath ↔
        ∃ file ∈ files, ∃ declared ∈ declaredIn (freshLoader w roots) file, ∃ d,
          ((freshLoader w roots).resolve declared).run = .ok d ∧ d.name = name := by
      intro name
      rw [newScan, hscan] at hends
      rw [scannedNames, newScan, hscan]
      exact mem_names_described hends
    refine ⟨hmem, fun file hfile module hmodule hfirst localName hlocal hleadless => ?_⟩
    have hdeclared := mem_declaredIn roots hmodule hlocal
    obtain ⟨d, hd, hdname⟩ := Source.resolve_declared hname hmodule hfirst hlocal hleadless
      fun path root htouches => .followed hfile hdeclared htouches
    exact (hmem _).mpr ⟨file, hfile, _, hdeclared, d, hd, hdname⟩

/-- Below one directory no file has two names. -/
theorem oneName_touched {w : Workspace} {root : Path} {files : List SourceFile}
    (hroot : w.isFile root = .ok false) (hfiles : ∀ file ∈ files, file.root = root) :
    OneName (Touched w [root] files) := by
  have hbase : ∀ path base, Touched w [root] files path base → base = root := by
    intro path base h
    cases h with
    | listed hfile => exact hfiles _ hfile
    | followed hfile hname htouches => exact Source.base_eq_of_touches hroot htouches
  intro path base base' name hplace hplace' _ hname
  rwa [hbase path base' hplace', ← hbase path base hplace]

/-- A module and a package of one name, with a type each. -/
def rivals : Workspace where
  top := .directory [("foo.py", .file Source.oneType.toUTF8 0),
    ("foo", .directory [("__init__.py", .file "class B: pass".toUTF8 0)])]
  cwd := []
  home := none
  now := 0

def rivalsRoot : Path := ⟨.root, []⟩

def rivalFiles : List SourceFile :=
  [⟨rivalsRoot, ⟨.root, ["foo.py"]⟩⟩, ⟨rivalsRoot, ⟨.root, ["foo", "__init__.py"]⟩⟩]

theorem modules_rivals : (modules rivals [] [rivalsRoot]).1 = .ok rivalFiles := by
  decide +kernel

theorem heldFirst_rivals : HeldFirst rivals [rivalsRoot] "foo" ⟨.root, ["foo.py"]⟩ rivalsRoot := by
  have hplain : ∀ part ∈ [] ++ ["foo"], Path.PlainPart part := by
    rintro part hpart
    obtain rfl := List.mem_singleton.mp hpart
    exact ⟨by decide, by decide, by decide⟩
  have hname : Source.dotted ([] ++ ["foo"]) = "foo" := by decide +kernel
  have hholds : Source.Holds rivals (Source.dotted ([] ++ ["foo"])) rivalsRoot
      (Source.sourceFile rivalsRoot [] "foo") rivalsRoot := Source.holds_sourceFile hplain rfl rfl
  exact ⟨[], rivalsRoot, [], rfl, by simp, hname ▸ hholds⟩

/-- The type of the package is declared and not found: a search for the package's name comes to the
module. -/
theorem not_forall_declared_mem_scannedNames :
    ¬ ∀ (w : Workspace) (scanner : Scanner) (roots classpath : List Path) (files : List SourceFile)
        (journal : Journal), classpath.mapM (resolvedRoot w) = .ok roots →
      modules w scanner.exclusions roots = (.ok files, journal) →
      (newScan w scanner roots classpath).fault = none →
      ∀ name, name ∈ scannedNames w scanner roots classpath ↔
        ∃ file ∈ files, name ∈ declaredIn (freshLoader w roots) file := by
  intro h
  have hends : (newScan rivals {} [rivalsRoot] [rivalsRoot]).fault = none := by decide +kernel
  have hfiles : modules rivals [] [rivalsRoot] =
      (.ok rivalFiles, (modules rivals [] [rivalsRoot]).2) :=
    Prod.ext modules_rivals rfl
  have hfound : "foo.B" ∈ scannedNames rivals {} [rivalsRoot] [rivalsRoot] :=
    (h rivals {} [rivalsRoot] [rivalsRoot] rivalFiles _ rfl hfiles hends "foo.B").mpr
      ⟨⟨rivalsRoot, ⟨.root, ["foo", "__init__.py"]⟩⟩, by decide, by decide +kernel⟩
  revert hfound
  decide +kernel

/-- The module's type is found, since a search for the module's name comes to the module. -/
theorem scan_finds_resolvable_rivals :
    [rivalsRoot].mapM (resolvedRoot rivals) = .ok [rivalsRoot] ∧
    (newScan rivals {} [rivalsRoot] [rivalsRoot]).fault = none ∧
    (scannedNames rivals {} [rivalsRoot] [rivalsRoot]).Nodup ∧
    "foo.A" ∈ scannedNames rivals {} [rivalsRoot] [rivalsRoot] ∧
    "foo.B" ∉ scannedNames rivals {} [rivalsRoot] [rivalsRoot] := by
  have hroots : [rivalsRoot].mapM (resolvedRoot rivals) = .ok [rivalsRoot] := rfl
  have hends : (newScan rivals {} [rivalsRoot] [rivalsRoot]).fault = none := by decide +kernel
  obtain ⟨hnodup, files, journal, hfiles, hfinds⟩ := scan_finds_resolvable hroots hends
  obtain rfl : files = rivalFiles :=
    Except.ok.inj ((congrArg Prod.fst hfiles).symm.trans modules_rivals)
  have hname : OneName (Touched rivals [rivalsRoot] rivalFiles) := oneName_touched rfl (by decide)
  obtain ⟨hnames, hfirst⟩ := hfinds hname
  refine ⟨hroots, hends, hnodup, ?_, ?_⟩
  · have hcounted : Source.moduleName ⟨.root, ["foo.py"]⟩ rivalsRoot = .ok "foo" := by
      decide +kernel
    have hstat : rivals.stat ⟨.root, ["foo.py"]⟩ = .ok (.file Source.oneType.toUTF8 0) := rfl
    obtain ⟨module, hmodule⟩ := Source.exists_freshModule_oneType hstat hcounted
    have hmoduleName : module.name = "foo" :=
      Except.ok.inj ((Source.moduleName_of_freshModule hmodule).symm.trans hcounted)
    have hlocal : "A" ∈ module.types.map (·.1) := by
      rw [Source.types_of_oneType hstat hmodule]
      exact List.mem_cons_self
    have hcuts : cuts "A" = [] := by decide +kernel
    have hfound := hfirst _ List.mem_cons_self module hmodule (hmoduleName ▸ heldFirst_rivals) "A"
      hlocal
      (by simp [hcuts])
    rwa [hmoduleName] at hfound
  · rw [hnames]
    have hnone : ∀ file ∈ rivalFiles,
        ∀ declared ∈ declaredIn (freshLoader rivals [rivalsRoot]) file,
        ((freshLoader rivals [rivalsRoot]).resolve declared).run.toOption.map (·.name) ≠
        some "foo.B" := by
      decide +kernel
    rintro ⟨file, hfile, declared, hdeclared, d, hresolve, hd⟩
    exact hnone file hfile declared hdeclared (by simp [hresolve, Except.toOption, hd])

end Scan
end RetentionPlan
