import RetentionPlan.Proofs.Scan.Listing

/-!
# Which files a directory's scan lists, and in which order

Whether a file is listed can be told from its path alone: no directory on the way to it is passed
over or excluded, and neither is the file. A listing leaves out whole directories while it walks,
and what it finds are just these files, each once, in an order that the paths alone tell as well. So
further exclusions only drop files from a listing, and the order of the exclusions does not matter.
-/
namespace RetentionPlan

namespace FileNode

/-- Does every directory of a tree give each of its entries a name of its own? -/
inductive WellNamed : FileNode → Prop
  | file {content : ByteArray} {modified : Int} : WellNamed (file content modified)
  | directory {entries : List (String × FileNode)} : (entries.map (·.1)).Nodup →
      (∀ entry ∈ entries, WellNamed entry.2) → WellNamed (directory entries)

variable {entries : List (String × FileNode)} {name : String} {node : FileNode}

/-- Under names of their own all entries are found. -/
theorem child?_eq_some_iff (h : (entries.map (·.1)).Nodup) :
    (directory entries).child? name = some node ↔ (name, node) ∈ entries := by
  unfold child? FileNode.entries
  induction entries with
  | nil => simp
  | cons entry rest ih =>
    obtain ⟨other, child⟩ := entry
    rw [List.map_cons, List.nodup_cons] at h
    by_cases hother : other = name
    · subst hother
      have hrest : (other, node) ∉ rest := fun hmem => h.1 (List.mem_map.mpr ⟨_, hmem, rfl⟩)
      simp [hrest, eq_comm]
    · simpa [hother, Ne.symm hother] using ih h.2

end FileNode

namespace Scan

/-! ## What is listed -/

/-- Does one of the patterns keep out a path below the root? -/
def Excludes (patterns : List String) (relative : String) (isDirectory : Bool) : Prop :=
  ∃ text ∈ patterns, ∃ x, Exclusion.ofString? text = some x ∧ x.applies relative isDirectory

/-- Is the directory `name` entered, `above` being the directories on the way to it? -/
structure Entered (patterns : List String) (above : List String) (name : String) : Prop where
  not_skipped : name ∉ skippedDirectories
  not_metadata : ¬ ".egg-info".toList <:+ name.toList
  not_excluded : ¬ Excludes patterns (String.intercalate "/" (above ++ [name])) true

/-- Is a file listed that lies at the end of `parts` below `node`, `above` being the directories on
the way to the node? -/
structure Listed (patterns : List String) (above : List String) (node : FileNode)
    (parts : List String) : Prop where
  file : ∃ content modified, node.find? parts = some (.file content modified)
  source : ∃ name, parts.getLast? = some name ∧ ".py".toList <:+ name.toList
  entered (before : List String) (name : String) (after : List String) :
    parts = before ++ name :: after → after ≠ [] → Entered patterns (above ++ before) name
  not_excluded : ¬ Excludes patterns (String.intercalate "/" (above ++ parts)) false

variable {patterns above parts rest : List String} {node : FileNode} {name : String}

theorem endsIn_iff {ending text : String} :
    endsIn ending text = true ↔ ending.toList <:+ text.toList := by
  rw [endsIn, List.isPrefixOf_iff_prefix, List.reverse_prefix]

theorem excluded_ofTexts_iff {relative : String} {isDirectory : Bool} :
    excluded (Scanner.ofTexts patterns).exclusions relative isDirectory = true ↔
      Excludes patterns relative isDirectory := by
  simp only [excluded, Scanner.ofTexts, List.any_filterMap, List.any_eq_true, Excludes]
  refine exists_congr fun text => and_congr_right fun _ => ?_
  cases Exclusion.ofString? text <;> simp

theorem entersDirectory_iff :
    entersDirectory (Scanner.ofTexts patterns).exclusions above name = true ↔
      Entered patterns above name := by
  simp only [entersDirectory, Bool.and_eq_true, Bool.not_eq_true', ← Bool.not_eq_true, endsIn_iff,
    excluded_ofTexts_iff, List.contains_iff_mem]
  exact ⟨fun ⟨⟨hskipped, hmetadata⟩, hexcluded⟩ => ⟨hskipped, hmetadata, hexcluded⟩,
    fun ⟨hskipped, hmetadata, hexcluded⟩ => ⟨⟨hskipped, hmetadata⟩, hexcluded⟩⟩

theorem listsFile_iff :
    listsFile (Scanner.ofTexts patterns).exclusions above name = true ↔
      ".py".toList <:+ name.toList ∧
        ¬ Excludes patterns (String.intercalate "/" (above ++ [name])) false := by
  simp only [listsFile, sourceSuffix, Bool.and_eq_true, Bool.not_eq_true', ← Bool.not_eq_true,
    endsIn_iff, excluded_ofTexts_iff]

theorem Listed.ne_nil (h : Listed patterns above node parts) : parts ≠ [] := by
  rintro rfl
  obtain ⟨name, hname, -⟩ := h.source
  cases hname

/-- Nothing lies below a file. -/
theorem Listed.isDirectory (h : Listed patterns above node parts) : node.isDirectory = true := by
  obtain ⟨content, modified, hfile⟩ := h.file
  cases node with
  | directory entries => rfl
  | file content modified =>
    obtain ⟨first, rest, rfl⟩ := List.exists_cons_of_ne_nil h.ne_nil
    cases hfile

/-- Directly inside a directory there is nothing on the way to a file. -/
theorem listed_singleton_iff :
    Listed patterns above node [name] ↔
      (∃ content modified, node.child? name = some (.file content modified)) ∧
        listsFile (Scanner.ofTexts patterns).exclusions above name = true := by
  have hfind : node.find? [name] = node.child? name := by simp [FileNode.find?]
  rw [listsFile_iff]
  constructor
  · intro h
    obtain ⟨last, hlast, hsource⟩ := h.source
    obtain rfl : name = last := by simpa using hlast
    exact ⟨hfind ▸ h.file, hsource, h.not_excluded⟩
  · rintro ⟨hfile, hsource, hexcluded⟩
    refine ⟨hfind ▸ hfile, ⟨name, rfl, hsource⟩, fun before other after hparts hafter => ?_,
      hexcluded⟩
    have hlength := congrArg List.length hparts
    have hpositive := List.length_pos_iff.mpr hafter
    simp only [List.length_nil, List.length_append, List.length_cons] at hlength
    omega

/-- Further down the first directory is on the way. -/
theorem listed_cons_iff (hrest : rest ≠ []) :
    Listed patterns above node (name :: rest) ↔
      entersDirectory (Scanner.ofTexts patterns).exclusions above name = true ∧
        ∃ child, node.child? name = some child ∧ Listed patterns (above ++ [name]) child rest := by
  rw [entersDirectory_iff]
  have hway : above ++ name :: rest = above ++ [name] ++ rest := by simp
  constructor
  · intro h
    obtain ⟨content, modified, hfile⟩ := h.file
    obtain ⟨child, hchild, hfile⟩ := Option.bind_eq_some_iff.mp hfile
    obtain ⟨last, hlast, hsource⟩ := h.source
    rw [List.getLast?_cons_of_ne_nil hrest] at hlast
    refine ⟨by simpa using h.entered [] name rest rfl hrest, child, hchild,
      ⟨content, modified, hfile⟩, ⟨last, hlast, hsource⟩, fun before other after hparts hafter =>
      ?_, hway ▸ h.not_excluded⟩
    have hentered := h.entered (name :: before) other after (by rw [hparts, List.cons_append])
      hafter
    rwa [List.append_assoc]
  · rintro ⟨hname, child, hchild, h⟩
    obtain ⟨content, modified, hfile⟩ := h.file
    obtain ⟨last, hlast, hsource⟩ := h.source
    refine ⟨⟨content, modified, Option.bind_eq_some_iff.mpr ⟨child, hchild, hfile⟩⟩,
      ⟨last, by rwa [List.getLast?_cons_of_ne_nil hrest], hsource⟩,
      fun before other after hparts hafter => ?_,
      hway ▸ h.not_excluded⟩
    cases before with
    | nil =>
      obtain ⟨rfl, -⟩ := List.cons.inj hparts
      simpa using hname
    | cons first before =>
      obtain ⟨rfl, hbelow⟩ := List.cons.inj hparts
      have hentered := h.entered before other after hbelow hafter
      rwa [List.append_assoc] at hentered

/-- A directory's own files and then those of the subdirectories that are entered, each with all
below it. -/
theorem sourcesOfEntries_eq (exclusions : List Exclusion) (above : List String)
    (entries : List (String × FileNode)) :
    sourcesOfEntries exclusions above entries =
      (entries.filter fun entry => entry.2.isDirectory &&
        entersDirectory exclusions above entry.1).map
        fun entry => (entry.1, sourcesBelow exclusions (above ++ [entry.1]) entry.2) := by
  induction entries with
  | nil => rfl
  | cons entry rest ih =>
    obtain ⟨name, node⟩ := entry
    rw [sourcesOfEntries, ih, List.filter_cons]
    split <;> rfl

theorem mem_fileNames_iff {entries : List (String × FileNode)} :
    name ∈ fileNames entries ↔
      ∃ content modified, (name, FileNode.file content modified) ∈ entries := by
  simp only [fileNames, sortedTexts, List.mem_mergeSort, List.mem_map, List.mem_filter]
  constructor
  · rintro ⟨⟨other, node⟩, ⟨hentry, hfile⟩, rfl⟩
    cases node with
    | file content modified => exact ⟨content, modified, hentry⟩
    | directory below => cases hfile
  · rintro ⟨content, modified, hentry⟩
    exact ⟨_, ⟨hentry, rfl⟩, rfl⟩

/-- The walk finds just the files that are listed by their paths. -/
theorem mem_sourcesBelow_iff (hnode : node.WellNamed) :
    parts ∈ sourcesBelow (Scanner.ofTexts patterns).exclusions above node ↔
      ∃ more, parts = above ++ more ∧ Listed patterns above node more := by
  -- A directory lists its own files and what its subdirectories list, so the paths with one
  -- component and the longer ones are told apart.
  induction hnode generalizing above parts with
  | file =>
    refine iff_of_false (by simp [sourcesBelow]) ?_
    rintro ⟨more, -, h⟩
    cases h.isDirectory
  | @directory entries hnames _ ih =>
    have hown : parts ∈ ((fileNames entries).filter
        (listsFile (Scanner.ofTexts patterns).exclusions above)).map (above ++ [·]) ↔
          ∃ name, parts = above ++ [name] ∧ Listed patterns above (.directory entries) [name] := by
      simp only [List.mem_map, List.mem_filter, mem_fileNames_iff, listed_singleton_iff,
        FileNode.child?_eq_some_iff hnames, eq_comm, and_comm]
    have hbelow : parts ∈ (byName (sourcesOfEntries (Scanner.ofTexts patterns).exclusions above
        entries)).flatMap (·.2) ↔
          ∃ name rest, rest ≠ [] ∧ parts = above ++ name :: rest ∧
            Listed patterns above (.directory entries) (name :: rest) := by
      simp only [List.mem_flatMap, byName, List.mem_mergeSort, sourcesOfEntries_eq, List.mem_map,
        List.mem_filter, Bool.and_eq_true]
      constructor
      · rintro ⟨_, ⟨⟨name, child⟩, ⟨hentry, -, henters⟩, rfl⟩, hparts⟩
        obtain ⟨rest, rfl, h⟩ := (ih _ hentry).mp hparts
        refine ⟨name, rest, h.ne_nil, by simp,
          (listed_cons_iff h.ne_nil).mpr ⟨henters, child, ?_, h⟩⟩
        exact (FileNode.child?_eq_some_iff hnames).mpr hentry
      · rintro ⟨name, rest, hrest, rfl, h⟩
        obtain ⟨henters, child, hchild, h⟩ := (listed_cons_iff hrest).mp h
        have hentry := (FileNode.child?_eq_some_iff hnames).mp hchild
        refine ⟨_, ⟨⟨name, child⟩, ⟨hentry, h.isDirectory, henters⟩, rfl⟩, ?_⟩
        exact (ih _ hentry).mpr ⟨rest, by simp, h⟩
    rw [sourcesBelow, List.mem_append, hown, hbelow]
    constructor
    · rintro (⟨name, rfl, h⟩ | ⟨name, rest, -, rfl, h⟩)
      · exact ⟨[name], rfl, h⟩
      · exact ⟨name :: rest, rfl, h⟩
    · rintro ⟨more, rfl, h⟩
      obtain ⟨name, rest, rfl⟩ := List.exists_cons_of_ne_nil h.ne_nil
      by_cases hrest : rest = []
      · subst hrest
        exact .inl ⟨name, rfl, h⟩
      · exact .inr ⟨name, rest, hrest, rfl, h⟩

/-! ## The order of a listing -/

/-- Does one file come before another in a listing? Below the directory where their paths part,
files come before directories, and names of one sort are in the order of their code points. -/
inductive Precedes : List String → List String → Prop
  | files {a b : String} : a < b → Precedes [a] [b]
  | file_directory {a b c : String} {bs : List String} : Precedes [a] (b :: c :: bs)
  | directories {a b c d : String} {as bs : List String} : a < b →
      Precedes (a :: c :: as) (b :: d :: bs)
  | inside {a : String} {as bs : List String} : Precedes as bs → Precedes (a :: as) (a :: bs)

theorem Precedes.append_left {as bs : List String} (h : Precedes as bs) (above : List String) :
    Precedes (above ++ as) (above ++ bs) := by
  induction above with
  | nil => exact h
  | cons first above ih => exact .inside ih

/-- Of two files only one comes before the other. -/
theorem Precedes.asymm {as bs : List String} (h : Precedes as bs) : ¬ Precedes bs as := by
  induction h with
  | files hlt =>
    rintro (hgt | - | - | ⟨⟨⟩⟩)
    exact String.lt_asymm hlt hgt
  | file_directory => rintro (- | - | - | ⟨⟨⟩⟩)
  | directories hlt =>
    rintro (- | - | hgt | -)
    · exact String.lt_asymm hlt hgt
    · exact String.lt_irrefl _ hlt
  | inside h ih =>
    rintro (hgt | - | hgt | h')
    · exact String.lt_irrefl _ hgt
    · cases h
    · exact String.lt_irrefl _ hgt
    · exact ih h'

theorem pairwise_fileNames {entries : List (String × FileNode)} (h : (entries.map (·.1)).Nodup) :
    (fileNames entries).Pairwise (· < ·) :=
  pairwise_lt_sortedTexts (h.sublist (List.filter_sublist.map _))

theorem pairwise_byName {α : Type} {items : List (String × α)} (h : (items.map (·.1)).Nodup) :
    (byName items).Pairwise fun a b => a.1 < b.1 := by
  have hnames : (byName items).map (·.1) = sortedTexts (items.map (·.1)) :=
    List.map_mergeSort fun _ _ _ _ => rfl
  rw [← List.pairwise_map, hnames]
  exact pairwise_lt_sortedTexts h

theorem exists_of_mem_byName {exclusions : List Exclusion} {entries : List (String × FileNode)}
    {below : String × List (List String)}
    (h : below ∈ byName (sourcesOfEntries exclusions above entries))
    (hparts : parts ∈ below.2) : ∃ first rest, parts = above ++ below.1 :: first :: rest := by
  rw [byName, List.mem_mergeSort, sourcesOfEntries_eq] at h
  obtain ⟨⟨name, node⟩, -, rfl⟩ := List.mem_map.mp h
  obtain ⟨more, hmore, rfl⟩ := exists_of_mem_sourcesBelow _ node hparts
  obtain ⟨first, rest, rfl⟩ := List.exists_cons_of_ne_nil hmore
  exact ⟨first, rest, by simp⟩

theorem pairwise_sourcesBelow (exclusions : List Exclusion) (above : List String)
    (hnode : node.WellNamed) : (sourcesBelow exclusions above node).Pairwise Precedes := by
  induction hnode generalizing above with
  | file => simp [sourcesBelow]
  | @directory entries hnames _ ih =>
    have hsubdirectories : ((sourcesOfEntries exclusions above entries).map (·.1)).Nodup := by
      rw [sourcesOfEntries_eq, List.map_map]
      exact hnames.sublist (List.filter_sublist.map _)
    rw [sourcesBelow, List.pairwise_append, List.pairwise_map, List.pairwise_flatMap]
    refine ⟨?_, ⟨fun below hbelow => ?_, ?_⟩, fun own hown later hlater => ?_⟩
    · exact ((pairwise_fileNames hnames).filter _).imp fun hlt =>
        (Precedes.files hlt).append_left above
    · rw [byName, List.mem_mergeSort, sourcesOfEntries_eq] at hbelow
      obtain ⟨entry, hentry, rfl⟩ := List.mem_map.mp hbelow
      exact ih entry (List.mem_of_mem_filter hentry) _
    · refine (pairwise_byName hsubdirectories).imp_of_mem fun {a b} ha hb hlt x hx y hy => ?_
      obtain ⟨first, rest, rfl⟩ := exists_of_mem_byName ha hx
      obtain ⟨first', rest', rfl⟩ := exists_of_mem_byName hb hy
      exact (Precedes.directories hlt).append_left above
    · obtain ⟨name, -, rfl⟩ := List.mem_map.mp hown
      obtain ⟨below, hbelow, hlater⟩ := List.mem_flatMap.mp hlater
      obtain ⟨first, rest, rfl⟩ := exists_of_mem_byName hbelow hlater
      exact Precedes.file_directory.append_left above

theorem nodup_of_precedes {listing : List (List String)} (h : listing.Pairwise Precedes) :
    listing.Nodup :=
  nodup_of_pairwise Precedes.asymm h

/-- Listings in order with the same files are equal. -/
theorem eq_of_precedes {as bs : List (List String)} (has : as.Pairwise Precedes)
    (hbs : bs.Pairwise Precedes) (h : ∀ parts, parts ∈ as ↔ parts ∈ bs) : as = bs :=
  eq_of_pairwise_of_mem_iff Precedes.asymm has hbs h

/-! ## Listings of a root -/

variable {w : Workspace} {entry root : Path} {entries : List (String × FileNode)}

theorem modules_directory (hroot : resolvedRoot w entry = .ok root)
    (hdirectory : w.stat root = .ok (.directory entries)) (exclusions : List Exclusion) :
    modules w exclusions [entry] =
      (.ok ((sourcesBelow exclusions [] (.directory entries)).map fun parts =>
        ⟨root, root.join ⟨.relative, parts⟩⟩), []) := by
  have hfound : sourcesOfRoot w exclusions root =
      .ok (some ((sourcesBelow exclusions [] (.directory entries)).map fun parts =>
        ⟨root, root.join ⟨.relative, parts⟩⟩)) := by
    simp only [sourcesOfRoot, Workspace.stat?, hdirectory, Path.join_relative]
    rfl
  simp [modules, hroot, hfound, Except.map]

theorem excludes_append_iff {more : List String} {relative : String} {isDirectory : Bool} :
    Excludes (patterns ++ more) relative isDirectory ↔
      Excludes patterns relative isDirectory ∨ Excludes more relative isDirectory := by
  simp only [Excludes, List.mem_append, or_and_right, exists_or]

/-- Patterns that keep out less list more. -/
theorem Listed.mono {fewer : List String} (h : Listed patterns above node parts)
    (hfewer : ∀ relative isDirectory, Excludes fewer relative isDirectory →
      Excludes patterns relative isDirectory) :
    Listed fewer above node parts where
  file := h.file
  source := h.source
  entered before name after hparts hafter := by
    obtain ⟨hskipped, hmetadata, hexcluded⟩ := h.entered before name after hparts hafter
    exact ⟨hskipped, hmetadata, fun hfewer' => hexcluded (hfewer _ _ hfewer')⟩
  not_excluded hfewer' := h.not_excluded (hfewer _ _ hfewer')

/-- Patterns together list what each part of them lists. -/
theorem listed_append_iff {more : List String} :
    Listed (patterns ++ more) above node parts ↔
      Listed patterns above node parts ∧ Listed more above node parts := by
  constructor
  · intro h
    exact ⟨h.mono fun _ _ hpart => excludes_append_iff.mpr (.inl hpart),
      h.mono fun _ _ hpart => excludes_append_iff.mpr (.inr hpart)⟩
  · rintro ⟨h, hmore⟩
    refine ⟨h.file, h.source, fun before name after hparts hafter => ?_, fun hboth => ?_⟩
    · have hentered := h.entered before name after hparts hafter
      refine ⟨hentered.not_skipped, hentered.not_metadata, fun hboth => ?_⟩
      exact (excludes_append_iff.mp hboth).elim hentered.not_excluded
        (hmore.entered before name after hparts hafter).not_excluded
    · exact (excludes_append_iff.mp hboth).elim h.not_excluded hmore.not_excluded

/-- Which patterns there are decides, not their order. -/
theorem listed_congr {others : List String} (h : ∀ text, text ∈ patterns ↔ text ∈ others) :
    Listed patterns above node parts ↔ Listed others above node parts := by
  have hsame (relative : String) (isDirectory : Bool) :
      Excludes patterns relative isDirectory ↔ Excludes others relative isDirectory := by
    simp only [Excludes, h]
  exact ⟨fun hlisted => hlisted.mono fun _ _ => (hsame _ _).mpr,
    fun hlisted => hlisted.mono fun _ _ => (hsame _ _).mp⟩

/-- The modules of a directory are the files below it that end in the suffix of sources and that
neither the directories on the way nor the patterns keep out. Each is listed once: in a directory
the files in the order of their names, then the subdirectories in theirs, with all below them. So
the list for some patterns and more is the list for the former restricted to the files that are
listed for the latter as well, and patterns may be reordered. -/
theorem modules_exact (hroot : resolvedRoot w entry = .ok root)
    (hdirectory : w.stat root = .ok (.directory entries))
    (hnamed : (FileNode.directory entries).WellNamed) :
    ∃ listing : (patterns : List String) → List (List String),
      (∀ patterns,
        modules w (Scanner.ofTexts patterns).exclusions [entry] =
          (.ok ((listing patterns).map fun parts => ⟨root, root.join ⟨.relative, parts⟩⟩), []) ∧
        (∀ parts, parts ∈ listing patterns ↔ Listed patterns [] (.directory entries) parts) ∧
        (listing patterns).Nodup ∧ (listing patterns).Pairwise Precedes) ∧
      (∀ patterns more, listing (patterns ++ more) = (listing patterns).filter (· ∈ listing more)) ∧
      ∀ patterns others, (∀ text, text ∈ patterns ↔ text ∈ others) →
        listing patterns = listing others := by
  let listing (patterns : List String) : List (List String) :=
    sourcesBelow (Scanner.ofTexts patterns).exclusions [] (.directory entries)
  have hmem (patterns parts : List String) :
      parts ∈ listing patterns ↔ Listed patterns [] (.directory entries) parts := by
    have hfrom : parts ∈ listing patterns ↔
        ∃ more, parts = [] ++ more ∧ Listed patterns [] (.directory entries) more :=
          mem_sourcesBelow_iff hnamed
    simpa using hfrom
  have hordered (patterns : List String) : (listing patterns).Pairwise Precedes :=
    pairwise_sourcesBelow _ [] hnamed
  refine ⟨listing, fun patterns => ⟨modules_directory hroot hdirectory _, hmem patterns,
    nodup_of_precedes (hordered patterns), hordered patterns⟩, fun patterns more => ?_,
    fun patterns others hsame => ?_⟩
  · refine eq_of_precedes (hordered _) ((hordered patterns).filter _) fun parts => ?_
    rw [List.mem_filter, decide_eq_true_eq, hmem, hmem, hmem, listed_append_iff]
  · refine eq_of_precedes (hordered _) (hordered _) fun parts => ?_
    rw [hmem, hmem, listed_congr hsame]

/-- A program with a generated part and the leftovers of a build. -/
def orchard : List (String × FileNode) :=
  [("pkg", .directory [("gen", .directory [("b.py", .file .empty 0)]), ("a.py", .file .empty 0)]),
    ("build", .directory [("c.py", .file .empty 0)]), ("main.py", .file .empty 0)]

theorem wellNamed_orchard : (FileNode.directory orchard).WellNamed := by
  have hleaf (name : String) : (FileNode.directory [(name, .file .empty 0)]).WellNamed :=
    .directory (by simp) (by simpa using .file)
  have hpkg : (FileNode.directory
      [("gen", .directory [("b.py", .file .empty 0)]), ("a.py", .file .empty 0)]).WellNamed :=
    .directory (by decide) (by simpa using ⟨hleaf "b.py", .file⟩)
  exact .directory (by decide) (by simpa [orchard] using ⟨hpkg, hleaf "c.py", .file⟩)

/-- A word with a slash behind it keeps out the directories of that name and what lies in them. -/
theorem excludes_gen_iff {relative : String} {isDirectory : Bool} :
    Excludes ["gen/"] relative isDirectory ↔
      isDirectory = true ∧ "gen".toList ∈ relative.toList.splitOn '/' := by
  have hread : Exclusion.ofString? "gen/" = some ⟨"gen", true, false, false⟩ := by decide +kernel
  have hword : Pattern.parse "gen" = "gen".toList.map .one := by decide +kernel
  have happlies : (⟨"gen", true, false, false⟩ : Exclusion).applies relative isDirectory =
      (isDirectory && (relative.toList.splitOn '/').any
        (Pattern.matchesChars ("gen".toList.map .one))) := by
    cases isDirectory <;> simp [Exclusion.applies, hword]
  simp only [Excludes, List.mem_singleton, exists_eq_left, hread, Option.some.injEq,
    exists_eq_left', happlies, Bool.and_eq_true, List.any_eq_true, Pattern.matchesChars_map_one,
    exists_eq_right']

/-- Of the files of a package the program's own is listed, and the generated one is not. -/
theorem modules_exact_orchard :
    let w : Workspace := ⟨.directory [("src", .directory orchard)], [], none, 0⟩
    let root : Path := ⟨.root, ["src"]⟩
    resolvedRoot w ⟨.relative, ["src"]⟩ = .ok root ∧ w.stat root = .ok (.directory orchard) ∧
      ∃ files, modules w (Scanner.ofTexts ["gen/"]).exclusions [⟨.relative, ["src"]⟩] =
        (.ok files, []) ∧ ⟨root, ⟨.root, ["src", "pkg", "a.py"]⟩⟩ ∈ files ∧
        ⟨root, ⟨.root, ["src", "pkg", "gen", "b.py"]⟩⟩ ∉ files := by
  intro w root
  have hroot : resolvedRoot w ⟨.relative, ["src"]⟩ = .ok root := by decide +kernel
  have hplain : (root.toString.toList.contains '\x00') = false := by decide +kernel
  have hshort : ¬ Workspace.maxPath < root.toString.utf8ByteSize := by decide +kernel
  have hwalk : Workspace.walk [] w.top (w.absoluteParts root) = .ok (.directory orchard) := rfl
  have hdirectory : w.stat root = .ok (.directory orchard) := by
    simp only [Workspace.stat, hplain, if_neg hshort, hwalk, Bool.false_eq_true, if_false]
  obtain ⟨listing, hlisting, -⟩ := modules_exact hroot hdirectory wellNamed_orchard
  obtain ⟨hfiles, hmem, -⟩ := hlisting ["gen/"]
  refine ⟨hroot, hdirectory, _, hfiles, ?_, ?_⟩
  · refine List.mem_map.mpr ⟨["pkg", "a.py"], (hmem _).mpr ?_, rfl⟩
    have hpkg : Entered ["gen/"] [] "pkg" :=
      ⟨by decide, by decide +kernel, by rw [excludes_gen_iff]; decide +kernel⟩
    refine (listed_cons_iff (by simp)).mpr ⟨entersDirectory_iff.mpr hpkg, _, rfl, ?_⟩
    refine listed_singleton_iff.mpr ⟨⟨_, _, rfl⟩, listsFile_iff.mpr ⟨by decide +kernel, ?_⟩⟩
    rw [excludes_gen_iff]
    decide
  · intro hb
    obtain ⟨parts, hparts, hpath⟩ := List.mem_map.mp hb
    obtain rfl : parts = ["pkg", "gen", "b.py"] := by simpa [Path.join_relative, root] using hpath
    have hgenerated := ((hmem _).mp hparts).entered ["pkg"] "gen" ["b.py"] rfl (by simp)
    refine hgenerated.not_excluded (excludes_gen_iff.mpr ⟨rfl, ?_⟩)
    decide +kernel

end Scan
end RetentionPlan
