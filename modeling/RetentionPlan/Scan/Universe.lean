import RetentionPlan.Loading.Loader
import RetentionPlan.Scan.Modules

/-!
# The universe of types

A scan describes every type that the source files of a classpath declare, each name once. Files and
names that cannot be loaded are passed over: a classpath is larger than what a program loads.
-/
namespace RetentionPlan.Scan

open Loading (Loader Fault Found)

structure Scanner where
  exclusions : List Exclusion := []
  /-- The number of workers, if one is configured. -/
  workers : Option Int := none

namespace Scanner

def ofTexts (exclusions : List String) (workers : Option Int := none) : Scanner :=
  ⟨exclusions.filterMap Exclusion.ofString?, workers⟩

/-- The number of workers of a scan; no number and zero leave the choice to the machine. -/
def workerCount (s : Scanner) : Int :=
  match s.workers with
  | none => 1
  | some n => if n = 0 then 1 else n

end Scanner

variable {m : Type → Type} [Monad m]

/-- The descriptors of names, those without one left out. -/
def describeNames (loader : Loader m) : List String → m (Except Fault (List TypeDescriptor))
  | [] => return .ok []
  | name :: rest => do
    match ← loader.find? name with
    | .error e => return .error e
    | .ok found =>
      match ← describeNames loader rest with
      | .error e => return .error e
      | .ok more => return .ok (found.toList ++ more)

def describeFile (loader : Loader m) (file : SourceFile) :
    m (Except Fault (List TypeDescriptor)) := do
  match ← loader.declaredTypes file.path file.root with
  | .error (.unresolved _) => return .ok []
  | .error (.fault e) => return .error e
  | .ok names => describeNames loader names

/-- The descriptors of files one after the other, up to the first fault. A name in `seen` is left
out. -/
def collect (seen : List String) : List (Except Fault (List TypeDescriptor)) → Found TypeDescriptor
  | [] => .none
  | .error e :: _ => ⟨[], some e⟩
  | .ok ds :: rest =>
    let new := distinctBy (·.name) (ds.filter fun d => !seen.contains d.name)
    let found := collect (seen ++ new.map (·.name)) rest
    ⟨new ++ found.items, found.fault⟩

section
variable {rs : List (Except Fault (List TypeDescriptor))} {seen : List String} {name : String}

/-- The names that one file's types add to those seen. -/
theorem mem_names_new {ds : List TypeDescriptor} :
    name ∈ (distinctBy (·.name) (ds.filter fun d => !seen.contains d.name)).map (·.name) ↔
      name ∉ seen ∧ name ∈ ds.map (·.name) := by
  rw [mem_map_distinctBy]
  simp only [List.mem_map, List.mem_filter, Bool.not_eq_true', List.contains_eq_mem,
    decide_eq_false_iff_not]
  constructor
  · rintro ⟨d, ⟨hd, hseen⟩, rfl⟩
    exact ⟨hseen, d, hd, rfl⟩
  · rintro ⟨hseen, d, hd, rfl⟩
    exact ⟨d, ⟨hd, hseen⟩, rfl⟩

/-- Every name is found once, and none that was seen before. -/
theorem nodup_names_collect (seen : List String) (rs : List (Except Fault (List TypeDescriptor))) :
    ((collect seen rs).items.map (·.name)).Nodup ∧
      ∀ name ∈ (collect seen rs).items.map (·.name), name ∉ seen := by
  induction rs generalizing seen with
  | nil => simp [collect, Found.none]
  | cons r rest ih =>
    cases r with
    | error e => simp [collect]
    | ok ds =>
      let new := distinctBy (·.name) (ds.filter fun d => !seen.contains d.name)
      obtain ⟨hnodup, hunseen⟩ := ih (seen ++ new.map (·.name))
      simp only [collect, List.map_append]
      constructor
      · refine List.nodup_append.mpr ⟨nodup_map_distinctBy _ _, hnodup, ?_⟩
        rintro name hnew _ hlater rfl
        exact hunseen name hlater (List.mem_append_right _ hnew)
      · rw [List.forall_mem_append]
        refine ⟨fun name hnew => (mem_names_new.mp hnew).1, fun name hlater => ?_⟩
        exact fun hseen => hunseen name hlater (List.mem_append_left _ hseen)

/-- If no fault cuts the work short, every name is found. -/
theorem mem_names_collect (h : (collect seen rs).fault = none) :
    name ∈ (collect seen rs).items.map (·.name) ↔
      name ∉ seen ∧ ∃ ds, .ok ds ∈ rs ∧ name ∈ ds.map (·.name) := by
  induction rs generalizing seen with
  | nil => simp [collect, Found.none]
  | cons r rest ih =>
    cases r with
    | error e => simp [collect] at h
    | ok ds =>
      simp only [collect, List.map_append, List.mem_append] at h ⊢
      rw [mem_names_new, ih h, List.mem_append, mem_names_new]
      simp only [List.mem_cons, Except.ok.injEq, or_and_right, exists_or, exists_eq_left]
      grind

end

/-- Scans a classpath: the descriptors found, and the records of the scan itself. -/
def typeUniverse (w : Workspace) (scanner : Scanner) (loader : Loader m) (classpath : List Path) :
    m (Found TypeDescriptor × Journal) := do
  match classpath.mapM (resolvedRoot w) with
  | .error e => return (⟨[], some (.access e)⟩, [])
  | .ok roots =>
    match modules w scanner.exclusions roots with
    | (.error e, journal) => return (⟨[], some (.access e)⟩, journal)
    | (.ok files, journal) =>
      let count := scanner.workerCount
      let text := s!"Scanning {files.length} modules with {count} workers"
      let journal := journal ++ [⟨.debug, "scanner", text⟩]
      if count < 0 then return (⟨[], some .noWorkers⟩, journal)
      else return (collect [] (← files.mapM (describeFile loader)), journal)

end RetentionPlan.Scan
