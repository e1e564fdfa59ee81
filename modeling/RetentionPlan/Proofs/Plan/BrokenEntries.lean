import RetentionPlan.Proofs.FileTree.Refusals
import RetentionPlan.Proofs.Plan.Faults
import RetentionPlan.Proofs.Scan.Listing
import RetentionPlan.Proofs.Source.LeadingDot

/-!
# Runs over broken entries

A run over the source files of a classpath is meant to pass over whatever it cannot load, and to
fail in writing its manifest at most. It does so if and only if no question to the loader meets a
fault. Straight names meet none, nor do the files that a scan lists; a name with a leading dot does
unless it is found.
-/
namespace RetentionPlan

open Loading (Asked Clean Ensures Genuine questions answer faultOf)
open Source (Cache Straight chain maxReexports sourceLoader)

/-- A manifest's path that the system can be given is refused at worst. -/
theorem Manifest.refused_of_write {w : Workspace} {path expanded : Path} {ds : List Decision}
    {e : WriteError} (hpath : w.expandHome path = .ok expanded) (hnull : expanded.NullFree)
    (h : (write w path ds).1 = .error e) : ∃ why, e.cause = .refused why := by
  have hwrite := w.refusedAtWorst_writeBelow hnull (render ds)
  unfold write at h
  simp only [hpath] at h
  rcases hbelow : w.writeBelow expanded (render ds) with ⟨cause | _, written⟩
  · simp only [hbelow, Except.error.injEq] at h hwrite
    exact h ▸ hwrite cause rfl
  · simp [hbelow] at h

namespace Source

variable {w : Workspace} {roots classpath : List Path} {entry : Asked}

/-- A file that a scan lists meets no fault if its path can be given to the system. -/
theorem fault_of_declaredTypes
    (h : Genuine (sourceLoader w roots) (Scan.Lists classpath) entry) {path root : Path}
    (hquestion : entry.question = .declaredTypes path root) (hnull : path.NullFree) :
    entry.fault = none := by
  cases h with
  | resolve name s => cases hquestion
  | declaredTypes hlists s =>
    cases hquestion
    obtain ⟨relative, hanchor, hparts, hbelow⟩ := hlists.below
    have hread : NoFault (readModule w path root) := by
      refine noFault_readModule (w.refusedAtWorst_stat hnull) fun e => ?_
      rw [show path = root.join relative from hbelow]
      exact moduleName_join hanchor hparts e
    have hnames : NoFault (Module.typeNames <$> readModule w path root) := by
      rw [map_eq_pure_bind]
      exact hread.bind fun module => .pure _
    exact hnames.faultOf s

/-- A name whose re-exports lead through straight names only meets no fault but that there are too
many of them. -/
theorem fault_of_resolve {asked : (path root : Path) → Prop}
    (h : Genuine (sourceLoader w roots) asked entry) {name : String}
    (hquestion : entry.question = .resolve name)
    (hstraight : ∀ cache, ∀ passed ∈ (chain w roots maxReexports [] name cache).names,
      Straight w roots passed) :
    entry.fault = none ∨ entry.fault = some .endlessReexport := by
  cases h with
  | declaredTypes hlists s => cases hquestion
  | resolve name s =>
    cases hquestion
    rcases hanswer : answer ((sourceLoader w roots).resolve name) s with (why | fault) | d
    · exact .inl rfl
    · exact .inr (congrArg some (eq_endlessReexport_of_resolve (hstraight s) hanswer))
    · exact .inl rfl

end Source

namespace Plan

/-- Does a run come to its end, or fail in nothing but writing a manifest that the system
refuses? -/
def EndsWell {α : Type} (result : Except PlanError α) : Prop :=
  (∃ a, result = .ok a) ∨ ∃ path why, result = .error (.manifest ⟨path, .refused why⟩)

namespace Run

/-- Can the system be given the path of the manifest, if one is wanted? -/
def Writable (r : Run) : Prop :=
  ∀ path, r.planner.manifest = some path →
    ∃ expanded, r.workspace.expandHome path = .ok expanded ∧ expanded.NullFree

theorem Writable.endsWell_writeManifest {r : Run} (h : r.Writable) :
    EndsWell r.writeManifest.1 := by
  unfold writeManifest
  cases hmanifest : r.planner.manifest with
  | none => exact .inl ⟨(), rfl⟩
  | some path =>
    obtain ⟨expanded, hpath, hnull⟩ := h path hmanifest
    have hwrite : ∀ e, (Manifest.write r.workspace path r.planner.decisions.toList).1 = .error e →
        ∃ why, e.cause = .refused why :=
      fun e => Manifest.refused_of_write hpath hnull
    dsimp only
    rcases hresult : Manifest.write r.workspace path r.planner.decisions.toList with
      ⟨⟨written, cause⟩ | _, _, _⟩
    · obtain ⟨why, rfl⟩ := hwrite _ (by rw [hresult])
      exact .inr ⟨written, why, rfl⟩
    · exact .inl ⟨(), rfl⟩

end Run

theorem EndsWell.finishes {α : Type} {result : Except PlanError α} (h : EndsWell result) :
    Finishes result := by
  rcases h with hok | ⟨path, why, h⟩
  · exact .inl hok
  · exact .inr ⟨_, h⟩

/-- Whether a failure ends a run well does not depend on what it would have given. -/
theorem EndsWell.error {α β : Type} {e : PlanError} (h : EndsWell (.error e : Except PlanError α)) :
    EndsWell (.error e : Except PlanError β) := by
  rcases h with ⟨a, ha⟩ | ⟨path, why, hwhy⟩
  · cases ha
  · exact .inr ⟨path, why, congrArg _ (Except.error.inj hwhy)⟩

section
variable {σ : Type} (loader : Loading.Loader (StateM σ)) (classpath : List Path) {r : Run}

theorem Run.Writable.afterRegistration (h : r.Writable) :
    Ensures (fun result => Finishes result.1 → EndsWell result.1)
      (r.afterRegistration loader classpath) := by
  unfold Run.afterRegistration Planner.enter
  split_ifs
  · refine (Planner.keeps_survey loader _ _ _ _).bind fun surveyed hkeeps => ?_
    obtain ⟨e | _, p⟩ := surveyed
    · exact .pure fun hfinishes => absurd hfinishes (not_finishes_fault e)
    · refine .pure fun _ => Run.Writable.endsWell_writeManifest fun path hpath => h path ?_
      exact hkeeps.manifest ▸ hpath
  · exact .pure fun hfinishes => by simp [Finishes] at hfinishes

theorem Run.Writable.complete (h : r.Writable) (reachable : List String) :
    Ensures (fun result => Finishes result.1 → EndsWell result.1)
      (r.complete loader classpath reachable) := by
  let start : Run := { r with watched := [] }
  refine (ensures_ready_beforeAnalysis loader classpath start).bind fun before hbefore => ?_
  obtain ⟨e | _, r⟩ := before
  · refine .pure fun hfinishes => ?_
    cases (hbefore (finishes_error hfinishes)).1
  · obtain ⟨-, hready⟩ := hbefore (.inl ⟨(), rfl⟩)
    refine (keeps_analyze loader r.watched reachable r.planner).bind fun analyzed hkeeps => ?_
    obtain ⟨e | count, p⟩ := analyzed
    · exact .pure fun hfinishes => absurd hfinishes (not_finishes_fault e)
    · have hwritable : Run.Writable { r with planner := p } := by
        intro path hpath
        have hmanifest := hkeeps.manifest.trans hready.manifest
        have hworkspace := hready.workspace
        exact hworkspace ▸ h path (hmanifest ▸ hpath)
      refine (hwritable.afterRegistration loader classpath).bind fun ended hended => ?_
      obtain ⟨e | _, r⟩ := ended
      · exact .pure fun hfinishes => (hended (finishes_error hfinishes)).error
      · exact .pure fun _ => .inl ⟨count, rfl⟩

end

theorem endsWell_complete_iff {σ : Type} (loader : Loading.Loader (StateM σ))
    (classpath : List Path)
    (reachable : List String) {r : Run} (hphase : r.planner.phase = none) (hwritable : r.Writable)
    (s : σ) :
    EndsWell (answer (r.complete loader classpath reachable) s).1 ↔
      Scan.Walks r.workspace r.planner.scanner classpath ∧
        Clean (questions (r.complete loader.traced classpath reachable) s) := by
  have htraced : answer (r.complete loader.traced classpath reachable) (s, []) =
      answer (r.complete loader classpath reachable) s :=
    ((loader.traced_corresponds _).complete reachable r s []).1
  have hfinishes : EndsWell (answer (r.complete loader classpath reachable) s).1 ↔
      Finishes (answer (r.complete loader.traced classpath reachable) (s, [])).1 := by
    rw [htraced]
    exact ⟨EndsWell.finishes, hwritable.complete loader classpath reachable s⟩
  obtain ⟨htracks, hfails⟩ := tracks_or_fails_complete loader classpath reachable hphase
  rw [hfinishes]
  by_cases hwalks : Scan.Walks r.workspace r.planner.scanner classpath
  · rw [questions, htracks hwalks (s, [])]
    simp [hwalks, Loading.clean_nil]
  · simp [hwalks, (hfails hwalks (s, [])).1]

theorem fault_typeUniverse_iff {σ : Type} (loader : Loading.Loader (StateM σ)) (w : Workspace)
    (scanner : Scan.Scanner) (classpath : List Path) (s : σ) :
    (answer (Scan.typeUniverse w scanner loader classpath) s).1.fault = none ↔
      Scan.Walks w scanner classpath ∧
        Clean (questions (Scan.typeUniverse w scanner loader.traced classpath) s) := by
  have htraced : answer (Scan.typeUniverse w scanner loader.traced classpath) (s, []) =
      answer (Scan.typeUniverse w scanner loader classpath) s :=
    ((loader.traced_corresponds _).typeUniverse w scanner s []).1
  rw [← htraced]
  by_cases hwalks : Scan.Walks w scanner classpath
  · rw [questions, Scan.tracks_typeUniverse loader hwalks (s, [])]
    simp [hwalks, Loading.clean_nil]
  · simp [hwalks, (Scan.fails_typeUniverse loader hwalks (s, [])).1]

/-- A run comes to its end or to a manifest that the system refuses, and a scan to its end, if and
only if the files of the classpath can be listed and no question to the loader meets a fault. Files
that are listed meet none, and of names whose re-exports lead through straight names, at most that
there are too many. No name with a leading dot is passed over as missing. -/
theorem complete_endsWell_iff {r : Run} (hphase : r.planner.phase = none) (hwritable : r.Writable)
    (roots classpath : List Path) (reachable : List String) (cache : Cache) :
    let w := r.workspace
    let scanner := r.planner.scanner
    let loader := sourceLoader w roots
    let run := answer (r.complete loader classpath reachable) cache
    let scan := answer (Scan.typeUniverse w scanner loader classpath) cache
    let asked := questions (r.complete loader.traced classpath reachable) cache
    let scanAsked := questions (Scan.typeUniverse w scanner loader.traced classpath) cache
    (EndsWell run.1 ↔ Scan.Walks w scanner classpath ∧ Clean asked) ∧
    (scan.1.fault = none ↔ Scan.Walks w scanner classpath ∧ Clean scanAsked) ∧
    (∀ entry ∈ asked ++ scanAsked, ∀ path root, entry.question = .declaredTypes path root →
      path.NullFree → entry.fault = none) ∧
    (∀ entry ∈ asked ++ scanAsked, ∀ name, entry.question = .resolve name →
      (∀ cache, ∀ passed ∈ (chain w roots maxReexports [] name cache).names,
        Straight w roots passed) →
      entry.fault = none ∨ entry.fault = some .endlessReexport) ∧
    ((∃ root ∈ roots, w.isFile root ≠ .ok true) →
      ∀ name missing cache, missing.toList.head? = some '.' →
        answer (loader.resolve name) cache ≠ .error (.unresolved (.notOnClasspath missing))) := by
  intro w scanner loader run scan asked scanAsked
  -- Each question that is logged was asked of the loader in some state.
  have hlog := loader.traced_corresponds (Scan.Lists classpath)
  have hgenuine : ∀ entry ∈ asked ++ scanAsked, Genuine loader (Scan.Lists classpath) entry :=
    List.forall_mem_append.mpr ⟨Loading.genuine_questions (hlog.complete reachable r) cache,
      Loading.genuine_questions (hlog.typeUniverse w scanner) cache⟩
  refine ⟨?_, ?_, ?_, ?_, ?_⟩
  · exact endsWell_complete_iff loader classpath reachable hphase hwritable cache
  · exact fault_typeUniverse_iff loader w scanner classpath cache
  · intro entry hentry path root hquestion hnull
    exact Source.fault_of_declaredTypes (hgenuine entry hentry) hquestion hnull
  · intro entry hentry name hquestion hstraight
    exact Source.fault_of_resolve (hgenuine entry hentry) hquestion hstraight
  · intro hroots name missing cache hmissing
    exact Source.follow_ne_notOnClasspath hroots hmissing

/-- A run over an empty directory for an explicit root with a leading dot. -/
def dottedRootRun : Run where
  workspace := ⟨.directory [], [], none, 0⟩
  planner := { rules := { explicitRoots := [".X"] } }

theorem complete_endsWell_iff_dottedRoot :
    dottedRootRun.planner.phase = none ∧ dottedRootRun.Writable ∧
    ¬ EndsWell (answer (dottedRootRun.complete
      (sourceLoader dottedRootRun.workspace [⟨.root, []⟩]) [⟨.root, []⟩] []) []).1 := by
  have hwritable : dottedRootRun.Writable := by
    intro path hpath
    cases hpath
  refine ⟨rfl, hwritable, fun hends => ?_⟩
  obtain ⟨-, hclean⟩ :=
    (complete_endsWell_iff rfl hwritable [⟨.root, []⟩] [⟨.root, []⟩] [] []).1.mp hends
  cases hclean ⟨.resolve ".X", some (.name (.emptyName Path.here))⟩ (List.mem_of_mem_head? rfl)

end Plan
end RetentionPlan
