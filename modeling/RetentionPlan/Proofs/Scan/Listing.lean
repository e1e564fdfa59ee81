import RetentionPlan.Proofs.Plan.Correspondence
import RetentionPlan.Proofs.Source.Straight

/-!
# Listed files lie below their roots

Every source file that a scan lists is counted from a directory above it, so that it can be named.
-/
namespace RetentionPlan.Scan

variable {exclusions : List Exclusion}

mutual
theorem exists_of_mem_sourcesBelow (above : List String) {parts : List String} :
    (node : FileNode) → parts ∈ sourcesBelow exclusions above node →
      ∃ more, more ≠ [] ∧ parts = above ++ more
  | .file .., h => by simp [sourcesBelow] at h
  | .directory entries, h => by
    simp only [sourcesBelow, List.mem_append, List.mem_map, List.mem_flatMap, byName,
      List.mem_mergeSort] at h
    rcases h with ⟨name, -, rfl⟩ | ⟨below, hbelow, hparts⟩
    · exact ⟨[name], by simp⟩
    · exact exists_of_mem_sourcesOfEntries above entries hbelow hparts

theorem exists_of_mem_sourcesOfEntries (above : List String) {parts : List String}
    {below : String × List (List String)} :
    (entries : List (String × FileNode)) → below ∈ sourcesOfEntries exclusions above entries →
      parts ∈ below.2 → ∃ more, more ≠ [] ∧ parts = above ++ more
  | [], h, _ => by simp [sourcesOfEntries] at h
  | (name, node) :: rest, h, hparts => by
    simp only [sourcesOfEntries] at h
    split at h
    · rcases List.mem_cons.mp h with rfl | h
      · obtain ⟨more, -, rfl⟩ := exists_of_mem_sourcesBelow (above ++ [name]) node hparts
        exact ⟨name :: more, by simp⟩
      · exact exists_of_mem_sourcesOfEntries above rest h hparts
    · exact exists_of_mem_sourcesOfEntries above rest h hparts
end

variable {w : Workspace} {file : SourceFile}

def SourceFile.Below (file : SourceFile) : Prop :=
  ∃ relative : Path, relative.anchor = .relative ∧ relative.parts ≠ [] ∧
    file.path = file.root.join relative

/-- A root that is a source file itself is counted from its directory, and the files below a root
from the root. -/
theorem exists_of_mem_sourcesOfRoot {root : Path} {files : List SourceFile}
    (h : sourcesOfRoot w exclusions root = .ok (some files)) (hfile : file ∈ files) :
    (root.suffix = sourceSuffix ∧ file = ⟨root.parent, root⟩) ∨
      ∃ more, more ≠ [] ∧ file = ⟨root, root.join ⟨.relative, more⟩⟩ := by
  unfold sourcesOfRoot at h
  rcases hstat : w.stat? root with e | _ | _ | entries <;> rw [hstat] at h
  · cases h
  · cases h
  · obtain rfl : (if root.suffix = sourceSuffix then [⟨root.parent, root⟩] else []) = files :=
      Option.some.inj (Except.ok.inj h)
    split_ifs at hfile with hsuffix
    · exact .inl ⟨hsuffix, List.mem_singleton.mp hfile⟩
    · cases hfile
  · obtain rfl : (sourcesBelow exclusions [] (.directory entries)).map
        (fun parts => ⟨root, ⟨root.anchor, root.parts ++ parts⟩⟩) = files :=
      Option.some.inj (Except.ok.inj h)
    obtain ⟨parts, hparts, rfl⟩ := List.mem_map.mp hfile
    obtain ⟨more, hmore, hbelow⟩ := exists_of_mem_sourcesBelow [] _ hparts
    refine .inr ⟨more, hmore, ?_⟩
    rw [hbelow, Path.join_relative rfl, List.nil_append]

theorem exists_root_of_mem_modules {roots : List Path} {files : List SourceFile} {journal : Journal}
    (h : modules w exclusions roots = (.ok files, journal)) (hfile : file ∈ files) :
    ∃ entry ∈ roots, ∃ root found, resolvedRoot w entry = .ok root ∧
      sourcesOfRoot w exclusions root = .ok (some found) ∧ file ∈ found := by
  induction roots generalizing files journal with
  | nil =>
    obtain rfl := Except.ok.inj (Prod.mk.inj h).1
    cases hfile
  | cons entry rest ih =>
    unfold modules at h
    cases hroot : resolvedRoot w entry with
    | error e => simp [hroot] at h
    | ok root =>
      cases hfound : sourcesOfRoot w exclusions root with
      | error e => simp [hroot, hfound] at h
      | ok found =>
        rcases hmore : modules w exclusions rest with ⟨_ | more, records⟩
        · simp [hroot, hfound, hmore, Except.map] at h
        · simp only [hroot, hfound, hmore, Except.map, Prod.mk.injEq, Except.ok.injEq] at h
          obtain ⟨rfl, -⟩ := h
          rcases List.mem_append.mp hfile with hhere | hlater
          · cases found with
            | none => cases hhere
            | some files => exact ⟨entry, List.mem_cons_self, root, files, hroot, hfound, hhere⟩
          · obtain ⟨entry, hentry, hfrom⟩ := ih hmore hlater
            exact ⟨entry, List.mem_cons_of_mem _ hentry, hfrom⟩

theorem below_of_modules {roots : List Path} {files : List SourceFile} {journal : Journal}
    (h : modules w exclusions roots = (.ok files, journal)) (hfile : file ∈ files) :
    file.Below := by
  obtain ⟨-, -, root, found, -, hfound, hmem⟩ := exists_root_of_mem_modules h hfile
  rcases exists_of_mem_sourcesOfRoot hfound hmem with ⟨hsuffix, rfl⟩ | ⟨more, hmore, rfl⟩
  · have hparts : root.parts ≠ [] := Path.parts_ne_nil_of_suffix (by simp [hsuffix, sourceSuffix])
    exact ⟨⟨.relative, [root.parts.getLast hparts]⟩, rfl, List.cons_ne_nil _ [],
      (Path.join_parent hparts).symm⟩
  · exact ⟨⟨.relative, more⟩, rfl, hmore, rfl⟩

theorem Lists.below {classpath : List Path} {path root : Path} (h : Lists classpath path root) :
    SourceFile.Below ⟨root, path⟩ := by
  obtain ⟨w, scanner, roots, files, journal, -, hfiles, hmem⟩ := h
  exact below_of_modules hfiles hmem

end RetentionPlan.Scan
