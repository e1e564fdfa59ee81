import RetentionPlan.Proofs.FileTree.Paths
import RetentionPlan.Proofs.FileTree.Refusals
import RetentionPlan.Proofs.Loading.Trace
import RetentionPlan.Proofs.Source.DottedName
import RetentionPlan.Proofs.Source.Reexports

/-!
# Names that are looked up without a fault

A name is turned into paths, and some names make paths that cannot be used. A name is straight if it
has no slash, does not start with a dot and is short enough for the files that it may stand for.
Looking up a straight name meets no fault.
-/
namespace RetentionPlan.Source

open Loading (LoadError Ensures answer after faultOf)

section
variable {α β : Type} {kind : LoadError → Prop}

/-- Are all failures of a query of one kind, whatever is remembered? -/
def FailsOnly (kind : LoadError → Prop) (x : Load α) : Prop :=
  Ensures (fun r => ∀ e, r = .error e → kind e) x.run

namespace FailsOnly

theorem pure (a : α) : FailsOnly kind (pure a : Load α) := fun _ e h => by cases h

theorem throw {e : LoadError} (h : kind e) : FailsOnly kind (throw e : Load α) := by
  intro _ e' he
  obtain rfl := Except.error.inj he
  exact h

theorem get : FailsOnly kind (get : Load Cache) := fun _ e h => by cases h

theorem bind {x : Load α} {f : α → Load β} (hx : FailsOnly kind x)
    (hf : ∀ a, FailsOnly kind (f a)) : FailsOnly kind (x >>= f) := by
  unfold FailsOnly
  rw [ExceptT.run_bind]
  refine Ensures.bind hx fun r hr => ?_
  cases r with
  | error e => exact throw (hr e rfl)
  | ok a => exact hf a

end FailsOnly

/-- Does a query never meet a fault, whatever is remembered? -/
abbrev NoFault (x : Load α) : Prop := FailsOnly (fun e => ∃ why, e = .unresolved why) x

theorem NoFault.unresolved (why : Loading.Unresolved) :
    NoFault (throw (.unresolved why) : Load α) :=
  .throw ⟨why, rfl⟩

theorem NoFault.faultOf {x : Load α} (h : NoFault x) (cache : Cache) :
    faultOf (answer x.run cache) = none := by
  have hkind := h cache
  cases hr : answer x.run cache with
  | error e =>
    obtain ⟨why, rfl⟩ := hkind e hr
    rfl
  | ok a => rfl

end

variable {w : Workspace} {roots : List Path}

/-- Reading a file that has a path and a place below its root meets no fault. -/
theorem noFault_readModule {path root : Path}
    (hstat : RefusedAtWorst (w.stat path))
    (hname : ∀ e, moduleName path root ≠ .error (.path e)) : NoFault (readModule w path root) := by
  unfold readModule
  cases hnode : w.stat path with
  | error e =>
    obtain ⟨why, rfl⟩ := hstat e hnode
    exact NoFault.unresolved _
  | ok node =>
    simp only [pure_bind]
    refine FailsOnly.get.bind fun cache => ?_
    cases cache.module? path (stamp node).1 (stamp node).2 with
    | some module => exact .pure module
    | none =>
      dsimp only
      rcases hpath : moduleName path root with (e | unnamed) | name
      · exact absurd hpath (hname e)
      · exact NoFault.unresolved _
      · dsimp only
        rcases w.readText path with ((_ | _ | _) | _) | text
        · exact NoFault.unresolved _
        · exact NoFault.unresolved _
        · exact NoFault.unresolved _
        · exact NoFault.unresolved _
        · dsimp only
          cases statementsOf? text with
          | none => exact NoFault.unresolved _
          | some body => exact fun _ e h => by cases h

theorem noFault_module? {path root : Path}
    (hstat : RefusedAtWorst (w.stat path))
    (hname : ∀ e, moduleName path root ≠ .error (.path e)) : NoFault (module? w path root) := by
  have hread : NoFault (some <$> readModule w path root) := by
    rw [map_eq_pure_bind]
    exact (noFault_readModule hstat hname).bind fun module => .pure _
  unfold module? NoFault FailsOnly
  rw [ExceptT.run_tryCatch]
  refine Ensures.bind hread fun r hr => ?_
  rcases r with (why | fault) | module
  · exact .pure fun e he => by cases he
  · obtain ⟨why, hwhy⟩ := hr _ rfl
    cases hwhy
  · exact .pure fun e he => by cases he

theorem NoFault.bind_accessible {α β : Type} {r : Except FileError α} {f : α → Load β}
    (h : ∃ a, r = .ok a) (hf : ∀ a, r = .ok a → NoFault (f a)) : NoFault (accessible r >>= f) := by
  obtain ⟨a, rfl⟩ := h
  exact hf a rfl

/-- A path below a root has a name, or is an initialiser without one. -/
theorem moduleName_join {root relative : Path} (hrelative : relative.anchor = .relative)
    (hparts : relative.parts ≠ []) (e : Path.NameError) :
    moduleName (root.join relative) root ≠ .error (.path e) := by
  rw [moduleName, Path.relativeTo_join hrelative]
  dsimp only
  cases hplain : relative.withSuffix "" with
  | error e => exact absurd (Path.withSuffix_eq_error_iff.mp hplain).1 hparts
  | ok plain =>
    dsimp only
    split <;> simp

theorem noFault_module?_join {root relative : Path} (hrelative : relative.anchor = .relative)
    (hparts : relative.parts ≠ []) (hfile : w.isFile (root.join relative) = .ok true) :
    NoFault (module? w (root.join relative) root) := by
  obtain ⟨node, hnode⟩ := Workspace.stat_of_isFile hfile
  exact noFault_module? (by rw [hnode]; exact .ok node) (moduleName_join hrelative hparts)

/-- A root that is a source file itself is counted from its directory. -/
theorem noFault_module?_root {root : Path} (hsuffix : root.suffix ≠ "")
    (hfile : w.isFile root = .ok true) : NoFault (module? w root root.parent) := by
  have hparts := Path.parts_ne_nil_of_suffix hsuffix
  have hbelow := Path.join_parent hparts
  have hread : NoFault
      (module? w (root.parent.join ⟨.relative, [root.parts.getLast hparts]⟩) root.parent) :=
    noFault_module?_join rfl (List.cons_ne_nil _ []) (by rw [hbelow]; exact hfile)
  rwa [hbelow] at hread

theorem noFault_module?_initialiser {root relative : Path} (hrelative : relative.anchor = .relative)
    (hfile : w.isFile (root.join relative / Module.initialiserFile) = .ok true) :
    NoFault (module? w (root.join relative / Module.initialiserFile) root) := by
  have hpackage : root.join relative / Module.initialiserFile = root.join ⟨.relative, _⟩ :=
    Path.join_div hrelative (by decide) (by decide)
  rw [hpackage] at hfile ⊢
  exact noFault_module?_join rfl (by simp) hfile

/-- Looking for the module of a name meets no fault, if the parts of the name make components of a
path and the files that it may stand for are not too long. -/
theorem noFault_findModule {name : String}
    (hslash : ∀ part ∈ dottedParts name, '/' ∉ part.toList)
    (hparts : ∃ part ∈ dottedParts name, Path.keeps part)
    (hfits : ∀ root ∈ roots, w.Fits root ∧ ∀ file,
      (Path.ofStrings (dottedParts name)).withSuffix ".py" = .ok file → w.Fits (root.join file) ∧
        w.Fits (root.join (Path.ofStrings (dottedParts name)) / Module.initialiserFile)) :
    NoFault (findModule w name roots) := by
  have hrelative := Path.ofStrings_of_not_mem_slash hslash
  have hanchor : (Path.ofStrings (dottedParts name)).anchor = .relative := by rw [hrelative]
  have hkept : (Path.ofStrings (dottedParts name)).parts ≠ [] := by
    obtain ⟨part, hpart, hkeeps⟩ := hparts
    exact List.ne_nil_of_mem (by simpa [hrelative] using ⟨hpart, hkeeps⟩)
  -- At each root the search asks for three files at most, in the order of the cases below; a root
  -- without them hands on to the rest.
  induction roots with
  | nil => exact .pure none
  | cons root rest ih =>
    rw [List.forall_mem_cons] at hfits
    obtain ⟨⟨hroot, hfiles⟩, hlater⟩ := hfits
    have hrest := ih hlater
    unfold findModule
    refine .bind_accessible hroot.isFile fun isFile hisFile => ?_
    cases isFile with
    | true =>
      rw [if_pos rfl]
      split_ifs with hmodule
      · simp only [Bool.and_eq_true, decide_eq_true_eq] at hmodule
        exact noFault_module?_root (by simp [hmodule.1]) hisFile
      · exact hrest
    | false =>
      rw [if_neg Bool.false_ne_true]
      dsimp only
      cases hfile : (Path.ofStrings (dottedParts name)).withSuffix ".py" with
      | error e => exact absurd (Path.withSuffix_eq_error_iff.mp hfile).1 hkept
      | ok file =>
        obtain ⟨hfitsFile, hfitsPackage⟩ := hfiles file hfile
        dsimp only
        refine .bind_accessible hfitsFile.isFile fun isFile hisFile => ?_
        cases isFile with
        | true =>
          obtain ⟨hfileAnchor, hfileParts⟩ := Path.withSuffix_eq_ok hfile
          rw [hanchor] at hfileAnchor
          exact noFault_module?_join hfileAnchor hfileParts hisFile
        | false =>
          rw [if_neg Bool.false_ne_true]
          refine .bind_accessible hfitsPackage.isFile fun isFile hisFile => ?_
          cases isFile with
          | true =>
            rw [if_pos rfl]
            exact noFault_module?_initialiser hanchor hisFile
          | false =>
            rw [if_neg Bool.false_ne_true]
            exact hrest

/-- Does a name make paths that can be used, whichever of its parts are those of a module? -/
structure Straight (w : Workspace) (roots : List Path) (name : String) : Prop where
  no_slash : '/' ∉ name.toList
  no_leading_dot : name.toList.head? ≠ some '.'
  fits : ∀ cut ∈ cuts name, ∀ root ∈ roots, w.Fits root ∧ ∀ file,
    (Path.ofStrings (dottedParts cut.1)).withSuffix ".py" = .ok file → w.Fits (root.join file) ∧
      w.Fits (root.join (Path.ofStrings (dottedParts cut.1)) / Module.initialiserFile)

theorem Straight.noFault_findModule {name : String} (h : Straight w roots name)
    {cut : String × String} (hcut : cut ∈ cuts name) : NoFault (findModule w cut.1 roots) := by
  obtain ⟨k, hk, hmodule, -⟩ := exists_of_mem_cuts hcut
  refine Source.noFault_findModule (fun part hpart hslash => ?_) ?_ (h.fits cut hcut)
  · rw [hmodule] at hpart
    exact h.no_slash (mem_of_mem_dottedParts (List.mem_of_mem_take hpart) hslash)
  · have hne : name ≠ "" := by
      rintro rfl
      simp [dottedParts] at hk
    obtain ⟨first, rest, hfirst, hnonempty⟩ := exists_first_part hne h.no_leading_dot
    have hdot : '.' ∉ first.toList := dot_not_mem_of_mem_dottedParts (by rw [hfirst]; simp)
    refine ⟨first, by simp [hmodule, hfirst], ?_⟩
    have hone : first ≠ "." := by
      rintro rfl
      exact hdot (by decide)
    simp [Path.keeps, hnonempty, hone]

theorem Straight.noFault_look {name : String} (h : Straight w roots name) :
    NoFault (leadOf w roots name (cuts name)) := by
  have hcuts : ∀ cut ∈ cuts name, NoFault (findModule w cut.1 roots) :=
    fun cut hcut => h.noFault_findModule hcut
  generalize cuts name = all at hcuts
  induction all with
  | nil => exact NoFault.unresolved _
  | cons cut rest ih =>
    rw [List.forall_mem_cons] at hcuts
    obtain ⟨moduleName, localName⟩ := cut
    refine hcuts.1.bind fun found => ?_
    cases found.bind (·.lead? name localName) with
    | some lead => exact .pure lead
    | none => exact ih hcuts.2

theorem faultOf_outcome {hops : Nat} {visited : List String} {name : String} {cache : Cache}
    (h : ∀ passed ∈ (chain w roots hops visited name cache).names, Straight w roots passed)
    {r : Except LoadError TypeDescriptor}
    (hr : (chain w roots hops visited name cache).outcome = some r) : faultOf r = none := by
  induction hops generalizing visited name cache with
  | zero => simp [chain] at hr
  | succ hops ih =>
    simp only [chain] at h hr
    by_cases hname : name ∈ visited
    · simp only [if_pos hname, Option.some.injEq] at hr
      rw [← hr]
      rfl
    · simp only [if_neg hname] at h hr
      rcases hlook : answer (look w roots name) cache with e | d | target
      · simp only [hlook, List.forall_mem_singleton, Option.some.injEq] at h hr
        have hnone : faultOf (answer (look w roots name) cache) = none :=
          h.noFault_look.faultOf cache
        rw [hlook] at hnone
        rw [← hr]
        rcases e with why | fault
        · rfl
        · cases hnone
      · simp only [hlook, Option.some.injEq] at hr
        rw [← hr]
        rfl
      · simp only [hlook, List.forall_mem_cons] at h hr
        exact ih h.2 hr

/-- Resolving a name whose chain of re-exports has straight names only meets no fault, unless the
chain is longer than the loader follows. -/
theorem eq_endlessReexport_of_resolve {name : String} {cache : Cache}
    (h : ∀ passed ∈ (chain w roots maxReexports [] name cache).names, Straight w roots passed)
    {fault : Loading.Fault}
    (hresolve : answer ((sourceLoader w roots).resolve name) cache = .error (.fault fault)) :
    fault = .endlessReexport := by
  change answer (follow w roots maxReexports [] name).run cache = _ at hresolve
  rw [answer_follow] at hresolve
  cases houtcome : (chain w roots maxReexports [] name cache).outcome with
  | none =>
    rw [houtcome] at hresolve
    exact (LoadError.fault.inj (Except.error.inj hresolve)).symm
  | some r =>
    have hnone := faultOf_outcome h houtcome
    rw [houtcome, Option.getD_some] at hresolve
    rw [hresolve] at hnone
    cases hnone

end RetentionPlan.Source
