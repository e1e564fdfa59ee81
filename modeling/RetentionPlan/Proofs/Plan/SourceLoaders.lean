import RetentionPlan.Proofs.Scan.Coverage
import RetentionPlan.Proofs.Scan.Listing

/-!
# Loaders of source files with fixed answers

While the files stay as they are, a loader of source files answers each question in one way, if no
file that it reads has two names. On a classpath with one root no file has. So what is said of runs
with fixed answers holds of runs with such a loader.
-/
namespace RetentionPlan

open Loading (Loader)
open Source (OneName Touches freshLoader sourceLoader)

/-- Is a path absolute and without double dots? -/
def Path.IsResolved (p : Path) : Prop := p.anchor = .root ∧ ".." ∉ p.parts

namespace Path

theorem collapse_of_not_mem (above : List String) {parts : List String} (h : ".." ∉ parts) :
    collapse above parts = above.reverse ++ parts := by
  induction parts generalizing above with
  | nil => simp [collapse]
  | cons part rest ih =>
    rw [List.mem_cons, not_or] at h
    have hstep : collapse above (part :: rest) = collapse (part :: above) rest := by
      rw [collapse]
      exact fun heq => h.1 heq.symm
    rw [hstep, ih _ h.2, List.reverse_cons, List.append_assoc, List.singleton_append]

theorem IsResolved.resolve {p : Path} (h : p.IsResolved) (cwd : Path) : p.resolve cwd = p := by
  have hjoin : cwd.join p = p := if_pos (by simp [isAbsolute, h.1])
  rw [Path.resolve, hjoin, collapse_of_not_mem [] h.2, ← h.1]
  rfl

theorem join_ne_self {root relative : Path} (h : relative.anchor = .relative)
    (hparts : relative.parts ≠ []) : root.join relative ≠ root := by
  intro heq
  have hlength := congrArg (fun p => p.parts.length) heq
  rw [join_relative h] at hlength
  simp [hparts] at hlength

end Path

namespace Scan

theorem eq_of_resolvedRoot {w : Workspace} {root found : Path} (h : root.IsResolved)
    (hfound : resolvedRoot w root = .ok found) : found = root := by
  have hhome : w.expandHome root = .ok root := by
    unfold Workspace.expandHome
    rw [h.1]
  have hresolve : w.resolve root = .ok found := by
    rw [← hfound, resolvedRoot, hhome]
    rfl
  rw [Workspace.resolve, h.resolve] at hresolve
  split at hresolve
  · cases hresolve
  · exact (Except.ok.inj hresolve).symm

/-- A file that one root leads to, and the directory that it is counted from: the root itself is
counted from its directory, and any other file from the root. -/
inductive OneRoot (root : Path) : (path base : Path) → Prop
  | itself : OneRoot root root root.parent
  | other {path : Path} : path ≠ root → OneRoot root path root

theorem oneName_oneRoot (root : Path) : OneName (OneRoot root) := by
  rintro path base base' name (_ | hother) hplace _ hname
  · cases hplace with
    | itself => exact hname
    | other hother => exact absurd rfl hother
  · cases hplace with
    | itself => exact absurd rfl hother
    | other => exact hname

/-- Wherever a name leads, it leads to files of the root. -/
theorem oneRoot_of_touches {w : Workspace} {root path base : Path} {name : String}
    (h : Touches [root] ⟨w, .resolve name⟩ path base) : OneRoot root path base := by
  have hne {file : Path} (hroot : w.isFile root = .ok false) (hfile : w.isFile file = .ok true) :
      file ≠ root := by
    rintro rfl
    rw [hroot] at hfile
    cases hfile
  cases h with
  | declared hquestion => cases hquestion
  | followed hquestion hpassed hcut hmem hcandidate =>
    obtain rfl := List.mem_singleton.mp hmem
    cases hcandidate with
    | itself => exact .itself
    | file hroot _ hfile => exact .other (hne hroot hfile)
    | initialiser hroot hfile => exact .other (hne hroot hfile)

/-- A scan of the root lists files of the root, whatever the files are. -/
theorem oneRoot_of_lists {root path base : Path} (hresolved : root.IsResolved)
    (h : Lists [root] path base) : OneRoot root path base := by
  obtain ⟨w, scanner, roots, files, journal, hroots, hfiles, hmem⟩ := h
  have hmapped : [root].mapM (resolvedRoot w) = resolvedRoot w root >>= fun found =>
      pure [found] := by
    simp [List.mapM_cons]
  rw [hmapped] at hroots
  cases hroot : resolvedRoot w root with
  | error e =>
    rw [hroot] at hroots
    cases hroots
  | ok found =>
    rw [hroot] at hroots
    obtain rfl : [found] = roots := Except.ok.inj hroots
    obtain rfl := eq_of_resolvedRoot hresolved hroot
    obtain ⟨entry, hentry, root, listed, hentryRoot, hlisted, hfile⟩ :=
      exists_root_of_mem_modules hfiles hmem
    obtain rfl := List.mem_singleton.mp hentry
    obtain rfl := eq_of_resolvedRoot hresolved hentryRoot
    rcases exists_of_mem_sourcesOfRoot hlisted hfile with ⟨-, hself⟩ | ⟨more, hmore, hbelow⟩
    · obtain ⟨rfl, rfl⟩ := Scan.SourceFile.mk.inj hself
      exact .itself
    · obtain ⟨rfl, rfl⟩ := Scan.SourceFile.mk.inj hbelow
      exact .other (Path.join_ne_self rfl hmore)

/-- The answers of a loader of source files are those of a loader made anew for each question. -/
theorem sourceLoader_corresponds {w : Workspace} {roots : List Path}
    {asked places : (path root : Path) → Prop}
    (hname : OneName places) (hasked : ∀ path root, asked path root → places path root)
    (htouches : ∀ name path root, Touches roots ⟨w, .resolve name⟩ path root → places path root) :
    (sourceLoader w roots).Corresponds (freshReading w places).toCorrespondence asked
      (freshLoader w roots) where
  resolve name := rel_resolve hname (htouches name)
  declaredTypes h := rel_declaredTypes hname (hasked _ _ h)
  supertypeCount _ hcache := ⟨rfl, hcache⟩

theorem sourceLoader_corresponds_of_isResolved (w : Workspace) {root : Path} (h : root.IsResolved) :
    (sourceLoader w [root]).Corresponds (freshReading w (OneRoot root)).toCorrespondence
      (Lists [root]) (freshLoader w [root]) :=
  sourceLoader_corresponds (oneName_oneRoot root) (fun _ _ => oneRoot_of_lists h) fun _ _ _ =>
    oneRoot_of_touches

end Scan
end RetentionPlan
