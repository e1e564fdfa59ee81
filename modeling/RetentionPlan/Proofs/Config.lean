import RetentionPlan.Config
import RetentionPlan.Proofs.FileTree.Refusals
import RetentionPlan.Proofs.Manifest
import RetentionPlan.Yaml.Document

/-!
# How reading the settings ends

With a reader of YAML that gives a value or refuses a text as malformed, reading the settings of a
project comes to settings or to a failure that is reported as one of the settings, unless the file
cannot be asked for, its bytes are no text, or an integer that is wanted as text has too many
digits. The last of these depends on which settings are looked at before a number of workers is
refused.
-/
namespace RetentionPlan

/-- Does a reader give a value for each text, or refuse it as malformed, and fail in no other
way? -/
def Yaml.Reader.Reliable (read : Yaml.Reader) : Prop :=
  ∀ text e, read text = .error e → e = .malformed

/-- Is a failure reported as one of the settings, and not as one of the means by which they are
read? -/
def ConfigError.IsReported : ConfigError → Prop
  | unreadable _ _ | malformed _ | notMapping _ | workers => True
  | access _ | notText | badValue _ | tooManyDigits => False

namespace Config
variable {α β : Type}

/-- Does an operation end with a result or with a failure that is reported as one of the
settings? -/
def EndsWell (r : Except ConfigError α) : Prop := ∀ e, r = .error e → e.IsReported

theorem endsWell_ok (a : α) : EndsWell (.ok a) := fun _ he => by cases he

theorem endsWell_error {e : ConfigError} :
    EndsWell (.error e : Except ConfigError α) ↔ e.IsReported :=
  ⟨fun h => h e rfl, fun h _ he => Except.error.inj he ▸ h⟩

theorem endsWell_bind {r : Except ConfigError α} {f : α → Except ConfigError β} :
    EndsWell (r >>= f) ↔ EndsWell r ∧ ∀ a, r = .ok a → EndsWell (f a) := by
  cases r with
  | error e =>
    refine (endsWell_error.trans endsWell_error.symm).trans ⟨fun h => ⟨h, fun a ha => ?_⟩, And.left⟩
    cases ha
  | ok a => exact ⟨fun h => ⟨endsWell_ok a, fun _ ha => Except.ok.inj ha ▸ h⟩, fun h => h.2 a rfl⟩

theorem endsWell_accessing {r : Except AccessError α} :
    EndsWell (accessing r) ↔ ∃ a, r = .ok a := by
  cases r with
  | error e =>
    refine endsWell_error.trans ⟨False.elim, fun ⟨a, ha⟩ => ?_⟩
    cases ha
  | ok a => exact ⟨fun _ => ⟨a, rfl⟩, fun _ => endsWell_ok a⟩

theorem accessing_eq_ok {r : Except AccessError α} {a : α} : accessing r = .ok a ↔ r = .ok a := by
  cases r <;> simp [accessing, Except.mapError]

/-! ## Texts of numbers -/

/-- Is an integer short enough to be written as text? -/
def IsShort (n : Int) : Prop := (toString n.natAbs).length ≤ Integer.maxDigits

/-- The texts of certain integers are wanted: too many digits of one of them are all that a
conversion can fail for. -/
structure Converts (r : Except ConfigError α) (ns : List Int) : Prop where
  exists_of_short : (∀ n ∈ ns, IsShort n) → ∃ a, r = .ok a
  tooManyDigits : (¬∀ n ∈ ns, IsShort n) → r = .error .tooManyDigits

namespace Converts
variable {r : Except ConfigError α} {ns ms : List Int}

theorem ok (a : α) : Converts (.ok a) [] :=
  ⟨fun _ => ⟨a, rfl⟩, fun h => absurd (fun _ hn => absurd hn List.not_mem_nil) h⟩

theorem bind {f : α → Except ConfigError β} (h : Converts r ns) (hf : ∀ a, Converts (f a) ms) :
    Converts (r >>= f) (ns ++ ms) := by
  by_cases hns : ∀ n ∈ ns, IsShort n
  · obtain ⟨a, rfl⟩ := h.exists_of_short hns
    refine ⟨fun hall => ?_, fun hsome => ?_⟩
    · exact (hf a).exists_of_short fun n hn => hall n (List.mem_append_right ns hn)
    · refine (hf a).tooManyDigits fun hms => hsome ?_
      exact List.forall_mem_append.mpr ⟨hns, hms⟩
  · refine ⟨fun hall => absurd (fun n hn => hall n (List.mem_append_left ms hn)) hns, fun _ => ?_⟩
    rw [h.tooManyDigits hns]
    rfl

theorem map (f : α → β) (h : Converts r ns) : Converts (r.map f) ns := by
  have hbind := h.bind (f := fun a => .ok (f a)) fun a => ok (f a)
  rw [List.append_nil] at hbind
  cases r <;> exact hbind

theorem mapM {f : α → Except ConfigError β} {numbers : α → List Int}
    (h : ∀ a, Converts (f a) (numbers a))
    (items : List α) : Converts (items.mapM f) (items.flatMap numbers) := by
  induction items with
  | nil => exact .ok []
  | cons a rest ih =>
    rw [List.mapM_cons, List.flatMap_cons]
    refine (h a).bind fun b => ?_
    have hrest := ih.bind (f := fun bs => .ok (b :: bs)) fun bs => ok (b :: bs)
    rwa [List.append_nil] at hrest

/-- What follows a conversion matters only if no number is too long. -/
theorem endsWell_bind {f : α → Except ConfigError β} {P : Prop} (h : Converts r ns)
    (hf : ∀ a, EndsWell (f a) ↔ P) : EndsWell (r >>= f) ↔ (∀ n ∈ ns, IsShort n) ∧ P := by
  by_cases hns : ∀ n ∈ ns, IsShort n
  · obtain ⟨a, rfl⟩ := h.exists_of_short hns
    exact (hf a).trans (and_iff_right hns).symm
  · rw [h.tooManyDigits hns]
    exact endsWell_error.trans ⟨False.elim, fun hall => hns hall.1⟩

end Converts

/-! ## Values -/

/-- The integers of which a text is wanted where a text or a number is. -/
def numbersOf : Yaml.Datum → List Int
  | .int n => [n]
  | _ => []

/-- The integers of which a text is wanted where a list of texts is. -/
def listedNumbers (d : Yaml.Document) : Yaml.Datum → List Int
  | .sequence items => items.flatMap fun i => numbersOf (d.part i)
  | _ => []

theorem converts_intText (n : Int) : Converts (intText n) [n] := by
  unfold intText Integer.text?
  refine ⟨fun h => ?_, fun h => ?_⟩
  · rw [List.forall_mem_singleton] at h
    exact ⟨toString n, by simp only [if_neg (Nat.not_lt.mpr h)]⟩
  · rw [List.forall_mem_singleton, IsShort, Nat.not_le] at h
    simp only [if_pos h]

theorem converts_text? (datum : Yaml.Datum) : Converts (Config.text? datum) (numbersOf datum) := by
  cases datum with
  | int n => exact (converts_intText n).map some
  | _ => exact .ok _

theorem converts_memberText? (datum : Yaml.Datum) :
    Converts (memberText? datum) (numbersOf datum) := by
  cases datum with
  | int n => exact converts_text? (.int n)
  | _ => exact .ok _

theorem converts_texts (d : Yaml.Document) (datum : Yaml.Datum) :
    Converts (Config.texts d datum) (listedNumbers d datum) := by
  cases datum with
  | sequence items =>
    have hmembers := Converts.mapM (fun i => converts_memberText? (d.part i)) items
    have hitems := hmembers.bind (f := fun texts => .ok (texts.filterMap id)) fun texts =>
      .ok (texts.filterMap id)
    rwa [List.append_nil] at hitems
  | _ => exact .ok _

/-- Only a number of workers that is not positive is refused. -/
theorem endsWell_workers? (datum : Yaml.Datum) : EndsWell (workers? datum) := by
  have hpositive (n : Int) : EndsWell (workers?.positive n) := by
    unfold workers?.positive
    split
    · exact endsWell_error.mpr trivial
    · exact endsWell_ok _
  cases datum with
  | int n => exact hpositive n
  | text s =>
    simp only [workers?]
    cases Integer.parse s with
    | some n => exact hpositive n
    | none => exact endsWell_ok _
  | _ => exact endsWell_ok _

namespace Entries

/-- The integers that the text under a key is wanted of. -/
def numbers (es : Entries) (key : String) : List Int := numbersOf (es.get key)

/-- The integers that the texts under a key are wanted of. -/
def listedNumbers (es : Entries) (key : String) : List Int :=
  Config.listedNumbers es.document (es.get key)

/-- The integers that the names of the enabled providers are wanted of. -/
def enabledNumbers (es : Entries) : List Int :=
  match es.get "providers" with
  | .mapping _ => (es.below "providers").listedNumbers "enabled"
  | datum => Config.listedNumbers es.document datum

theorem converts_texts (es : Entries) (key : String) :
    Converts (es.texts key) (es.listedNumbers key) :=
  Config.converts_texts es.document (es.get key)

theorem converts_text? (es : Entries) (key : String) :
    Converts (es.text? key) (es.numbers key) := by
  have htext := (Config.converts_text? (es.get key)).bind
    (f := fun text => .ok (text.filter (· ≠ ""))) fun text => .ok (text.filter (· ≠ ""))
  rwa [List.append_nil] at htext

theorem converts_enabled? (es : Entries) : Converts (enabled? es) es.enabledNumbers := by
  unfold enabled? enabledNumbers
  cases hproviders : es.get "providers" with
  | mapping entries =>
    have hbelow : es.below "providers" = { es with entries } := by rw [below, hproviders]
    simp only [hbelow]
    cases hlookup : es.document.lookup? entries "enabled" with
    | some datum => exact (converts_texts { es with entries } "enabled").map some
    | none =>
      have hnull : ({ es with entries } : Entries).get "enabled" = .null := by
        rw [get, hlookup]; rfl
      rw [listedNumbers, hnull]
      exact .ok _
  | null => exact .ok _
  | _ => exact (Config.converts_texts es.document _).map some

end Entries

/-! ## The whole -/

def named? (environment : Environment) : Option Path :=
  let value := Unicode.trim ((environment.lookup manifestVariable).getD "")
  if value = "" then none else some (.ofString value)

/-- Is the home known if a path needs it? -/
def Expands (w : Workspace) (p : Path) : Prop := p.HasTilde → ∃ q, w.expandHome p = .ok q

/-- Can the settings file that a path means be asked for? -/
structure Locates (w : Workspace) (path file : Path) : Prop where
  fileAt : fileAt w path = .ok file
  parent : ∃ root, w.resolve file.parent = .ok root
  present : ∃ present, w.pathExists file = .ok present

/-- Are all integers short enough that are wanted as texts before the number of workers is looked
at? -/
def Entries.EarlyShort (es : Entries) : Prop :=
  ((∀ n ∈ (es.below "rules").listedNumbers "explicit_roots", IsShort n) ∧
    (∀ n ∈ (es.below "rules").listedNumbers "supertypes", IsShort n) ∧
    ∀ n ∈ (es.below "rules").listedNumbers "attributes", IsShort n) ∧
    ∀ n ∈ es.listedNumbers "classpath", IsShort n

/-- Are those short enough that are wanted after it? A manifest in the file counts only if the
environment names none. -/
def Entries.LateShort (environment : Environment) (es : Entries) : Prop :=
  (named? environment = none → ∀ n ∈ es.numbers "manifest_path", IsShort n) ∧
    (∀ n ∈ es.enabledNumbers, IsShort n) ∧
    (∀ n ∈ es.numbers "injectable_attribute", IsShort n) ∧
    ∀ n ∈ es.listedNumbers "exclude_paths", IsShort n

variable {w : Workspace} {path root : Path} {environment : Environment} {es : Entries}

theorem expands_iff {p : Path} : Expands w p ↔ ∃ q, w.expandHome p = .ok q := by
  refine ⟨fun h => ?_, fun h _ => h⟩
  by_cases htilde : p.HasTilde
  · exact h htilde
  · exact ⟨p, w.expandHome_of_not_hasTilde htilde⟩

theorem manifest?_of_unnamed (h : named? environment = none) : manifest? w environment root es =
    es.text? "manifest_path" >>= fun text => pure (text.map (root / ·)) := by
  have hvalue : Unicode.trim ((environment.lookup manifestVariable).getD "") = "" := by
    simpa [named?] using h
  unfold manifest? manifestOf
  simp only [hvalue]
  cases es.text? "manifest_path" <;> rfl

theorem manifest?_of_named {p : Path} (h : named? environment = some p) :
    manifest? w environment root es =
      accessing (w.expandHome p) >>= fun q => pure (some (root.join q)) := by
  unfold manifest? manifestOf
  unfold named? at h
  dsimp only at h ⊢
  split at h
  · cases h
  · next hvalue =>
    obtain rfl := Option.some.inj h
    rw [if_neg hvalue]
    generalize w.expandHome (Path.ofString _) = expanded
    cases expanded <;> rfl

theorem endsWell_manifest?_bind {f : Option Path → Except ConfigError α} {P : Prop}
    (hf : ∀ m, EndsWell (f m) ↔ P) :
    EndsWell (manifest? w environment root es >>= f) ↔
      ((∀ p, named? environment = some p → Expands w p) ∧
      (named? environment = none → ∀ n ∈ es.numbers "manifest_path", IsShort n)) ∧ P := by
  cases hnamed : named? environment with
  | none =>
    have htext := (es.converts_text? "manifest_path").endsWell_bind fun text =>
      hf (text.map (root / ·))
    rw [manifest?_of_unnamed hnamed, bind_assoc]
    simpa using htext
  | some p =>
    have hexpand : EndsWell (accessing (w.expandHome p) >>= fun q => f (some (root.join q))) ↔
        Expands w p ∧ P := by
      rw [endsWell_bind, endsWell_accessing, expands_iff]
      refine and_congr_right fun ⟨q, hq⟩ => ?_
      simp [hf, accessing_eq_ok, hq]
    rw [manifest?_of_named hnamed, bind_assoc]
    simpa using hexpand

theorem endsWell_workers?_bind {datum : Yaml.Datum} {f : Option Int → Except ConfigError α}
    {P : Prop} (hf : ∀ m, EndsWell (f m) ↔ P) :
    EndsWell (workers? datum >>= f) ↔ ((∃ workers, workers? datum = .ok workers) → P) := by
  rw [endsWell_bind, and_iff_right (endsWell_workers? datum), forall_exists_index]
  exact forall₂_congr fun workers _ => hf workers

/-- What comes before the number of workers, with anything after it. -/
theorem endsWell_early
    {f : List String → List String → List String → List String → Except ConfigError α} {P : Prop}
    (hf : ∀ explicitRoots supertypes attributes entries,
      EndsWell (f explicitRoots supertypes attributes entries) ↔ P) :
    EndsWell (do
      let explicitRoots ← (es.below "rules").texts "explicit_roots"
      let supertypes ← (es.below "rules").texts "supertypes"
      let attributes ← (es.below "rules").texts "attributes"
      let entries ← es.texts "classpath"
      f explicitRoots supertypes attributes entries) ↔ es.EarlyShort ∧ P := by
  rw [Entries.EarlyShort, and_assoc, and_assoc, and_assoc]
  refine ((es.below "rules").converts_texts _).endsWell_bind fun explicitRoots => ?_
  refine ((es.below "rules").converts_texts _).endsWell_bind fun supertypes => ?_
  refine ((es.below "rules").converts_texts _).endsWell_bind fun attributes => ?_
  refine (es.converts_texts _).endsWell_bind fun entries => ?_
  exact hf explicitRoots supertypes attributes entries

/-- What comes after the number of workers. -/
theorem endsWell_late
    {f : Option Path → Option (List String) → Option String → List String → Config} :
    EndsWell (do
      let manifest ← manifest? w environment root es
      let providers ← enabled? es
      let injectable ← es.text? "injectable_attribute"
      let excludePaths ← es.texts "exclude_paths"
      return f manifest providers injectable excludePaths) ↔
        (∀ p, named? environment = some p → Expands w p) ∧ es.LateShort environment := by
  rw [Entries.LateShort, ← and_assoc]
  refine endsWell_manifest?_bind fun manifest => ?_
  refine es.converts_enabled?.endsWell_bind fun providers => ?_
  refine (es.converts_text? _).endsWell_bind fun injectable => ?_
  have hlast := (es.converts_texts "exclude_paths").endsWell_bind fun excludePaths =>
    iff_true_intro (endsWell_ok (f manifest providers injectable excludePaths))
  rwa [and_true] at hlast

theorem endsWell_ofEntries : EndsWell (ofEntries w environment root es) ↔ es.EarlyShort ∧
    ((∃ workers, workers? (es.get "workers") = .ok workers) →
      (∀ p, named? environment = some p → Expands w p) ∧ es.LateShort environment) :=
  endsWell_early fun _ _ _ _ => endsWell_workers?_bind fun _ => endsWell_late

/-- A path can be asked for that names no home and no NUL, if it and the settings file that it means
are short enough. -/
theorem exists_locates (hplain : ¬path.HasTilde) (hnull : path.NullFree) (hcwd : w.cwdPath.NullFree)
    (hshort : w.Fits path) (hfile : ∀ file, fileAt w path = .ok file → w.Fits file) :
    ∃ file, Locates w path file := by
  have hresolve {p : Path} (hp : p.NullFree) : w.resolve p = .ok (p.resolve w.cwdPath) :=
    if_neg (by simpa using hp.toString)
  obtain ⟨p, hp, hfileAt⟩ : ∃ p : Path, p.NullFree ∧ fileAt w path = .ok (p.resolve w.cwdPath) := by
    obtain ⟨found, hfound⟩ := hshort.exists_stat?
    have hdirectory : w.isDirectory path = .ok (found.any FileNode.isDirectory) := by
      rw [Workspace.isDirectory, hfound]
      rfl
    have hstep : fileAt w path = (w.isDirectory path).mapError .refused >>= fun isDirectory =>
        w.resolve (if isDirectory then path / fileName else path) := by
      rw [fileAt, w.expandHome_of_not_hasTilde hplain]
      rfl
    have hname : (Path.ofString fileName).NullFree := by
      unfold Path.NullFree
      decide
    have hmeant : (if found.any FileNode.isDirectory then path / fileName else path).NullFree := by
      split
      · exact hnull.join hname
      · exact hnull
    refine ⟨_, hmeant, ?_⟩
    rw [← hresolve hmeant, hstep, hdirectory]
    rfl
  obtain ⟨present, hpresent⟩ := (hfile _ hfileAt).exists_stat?
  refine ⟨p.resolve w.cwdPath, hfileAt, ⟨_, hresolve (hp.resolve hcwd).parent⟩, present.isSome, ?_⟩
  rw [Workspace.pathExists, hpresent]
  rfl

/-- Are the bytes of a file, if it has any, those of a text? -/
def HoldsText (w : Workspace) (file : Path) : Prop :=
  ∀ content, w.readBytes file = .ok content → ∃ s, String.fromUTF8? content = some s

/-- Can a settings file be read by a reader, or be refused as malformed? -/
structure Legible (read : Yaml.Reader) (w : Workspace) (file : Path) : Prop where
  text : HoldsText w file
  values : ∀ text, w.readText file = .ok text → Unicode.trim text ≠ "" →
    ∀ e, read text = .error e → e = .malformed

variable {read : Yaml.Reader}

theorem legible_iff_holdsText (hread : read.Reliable) {file : Path} :
    Legible read w file ↔ HoldsText w file :=
  ⟨Legible.text, fun h => ⟨h, fun text _ _ => hread text⟩⟩

theorem readText_eq_notText_iff {file : Path} : w.readText file = .error .notText ↔
    ∃ content, w.readBytes file = .ok content ∧ String.fromUTF8? content = none := by
  unfold Workspace.readText
  cases w.readBytes file with
  | error e => simp
  | ok content => cases hutf : String.fromUTF8? content <;> simp [hutf]

theorem holdsText_iff {file : Path} : HoldsText w file ↔ w.readText file ≠ .error .notText := by
  rw [Ne, readText_eq_notText_iff]
  simp only [HoldsText, not_exists, not_and, ← Option.ne_none_iff_exists', ne_eq]

theorem legible_iff {file : Path} : Legible read w file ↔ w.readText file ≠ .error .notText ∧
    ∀ text, w.readText file = .ok text → Unicode.trim text ≠ "" →
      ∀ e, read text = .error e → e = .malformed :=
  ⟨fun h => ⟨holdsText_iff.mp h.text, h.values⟩, fun h => ⟨holdsText_iff.mpr h.1, h.2⟩⟩

theorem endsWell_readEntries_of_text {file : Path} {text : String}
    (h : w.readText file = .ok text) :
    EndsWell (readEntries read w file) ↔
      (Unicode.trim text ≠ "" → ∀ e, read text = .error e → e = .malformed) := by
  rw [readEntries, h]
  dsimp only
  by_cases hblank : Unicode.trim text = ""
  · rw [if_pos hblank]
    exact iff_of_true (endsWell_ok _) fun hnot => absurd hblank hnot
  · rw [if_neg hblank, imp_iff_right hblank]
    rcases read text with e | _ | document
    · simp only [Except.error.injEq, forall_eq']
      cases e with
      | malformed => exact iff_of_true (endsWell_error.mpr trivial) rfl
      | _ => exact iff_of_false endsWell_error.mp (fun h => by cases h)
    · exact iff_of_true (endsWell_ok _) (fun e he => by cases he)
    · refine iff_of_true ?_ (fun e he => by cases he)
      cases hroot : document.root with
      | null => simp only [hroot]; exact endsWell_ok _
      | mapping entries => simp only [hroot]; exact endsWell_ok _
      | _ => simp only [hroot]; exact endsWell_error.mpr trivial

/-- A file that is there is read, and what it holds decides; a directory is reported as
unreadable. -/
theorem endsWell_readEntries {file : Path} {node : FileNode} (h : w.stat file = .ok node) :
    EndsWell (readEntries read w file) ↔ Legible read w file := by
  rw [legible_iff]
  cases htext : w.readText file with
  | ok text => simp [endsWell_readEntries_of_text htext]
  | error e =>
    cases e with
    | notText =>
      rw [readEntries, htext]
      exact iff_of_false endsWell_error.mp fun hlegible => hlegible.1 rfl
    | access e =>
      -- The path leads to something, so it is only a directory that cannot be read.
      have hwhy : ∃ why, e = .refused why := by
        cases node with
        | file content _ =>
          rw [Workspace.readText, Workspace.readBytes, h] at htext
          cases hutf : String.fromUTF8? content <;> simp [hutf] at htext
        | directory _ =>
          rw [Workspace.readText, Workspace.readBytes, h] at htext
          injection htext with htext
          injection htext with htext
          exact ⟨_, htext.symm⟩
      obtain ⟨why, rfl⟩ := hwhy
      rw [readEntries, htext]
      refine iff_of_true (endsWell_error.mpr trivial) ⟨by simp, fun text ht => by cases ht⟩

/-- A path that exists leads somewhere, and one that does not leads nowhere. -/
theorem isSome_of_pathExists {file : Path} {present : Bool} (h : w.pathExists file = .ok present) :
    (w.stat file).toOption.isSome = present := by
  unfold Workspace.pathExists Workspace.stat? at h
  cases hstat : w.stat file with
  | ok node =>
    rw [hstat] at h
    exact Except.ok.inj h
  | error e =>
    rw [hstat] at h
    cases e with
    | refused why =>
      dsimp only at h
      split at h
      · exact Except.ok.inj h
      · cases h
    | _ => exact Except.ok.inj h

theorem endsWell_entriesAt {file : Path} {present : Bool} (h : w.pathExists file = .ok present) :
    EndsWell (entriesAt read w file) ↔ Legible read w file := by
  have hentries : entriesAt read w file = if present then readEntries read w file else .ok {} := by
    rw [entriesAt, h]
    rfl
  rw [hentries]
  cases present with
  | true =>
    cases hstat : w.stat file with
    | ok node => exact endsWell_readEntries hstat
    | error e =>
      have hsome := isSome_of_pathExists h
      rw [hstat] at hsome
      cases hsome
  | false =>
    cases hstat : w.stat file with
    | ok node =>
      have hnone := isSome_of_pathExists h
      rw [hstat] at hnone
      cases hnone
    | error e =>
      have htext : w.readText file = .error (.access e) := by
        rw [Workspace.readText, Workspace.readBytes, hstat]
      refine iff_of_true (endsWell_ok _) (legible_iff.mpr ?_)
      rw [htext]
      exact ⟨by simp, fun text ht => by cases ht⟩

/-- When reading the settings ends with settings or with a failure that is reported as one of them,
for whatever reader. -/
theorem endsWell_loadBy_iff : EndsWell (loadBy read w path environment) ↔
    ∃ file, Locates w path file ∧ Legible read w file ∧
      ∀ es, entriesAt read w file = .ok es → es.EarlyShort ∧
        ((∃ workers, workers? (es.get "workers") = .ok workers) →
          (∀ p, named? environment = some p → Expands w p) ∧ es.LateShort environment) := by
  -- Each step has to end well, and those after it only for what it gives.
  simp only [loadBy, endsWell_bind, endsWell_accessing, accessing_eq_ok, endsWell_ofEntries]
  constructor
  · rintro ⟨⟨file, hfile⟩, hload⟩
    obtain ⟨⟨root, hroot⟩, hload⟩ := hload file hfile
    obtain ⟨hentries, hload⟩ := hload root hroot
    have hpresent : ∃ present, w.pathExists file = .ok present := by
      rw [entriesAt, endsWell_bind, endsWell_accessing] at hentries
      obtain ⟨present, hpresent⟩ := hentries.1
      cases hexists : w.pathExists file with
      | ok present => exact ⟨present, rfl⟩
      | error e =>
        rw [hexists] at hpresent
        cases hpresent
    obtain ⟨present, hpresent⟩ := hpresent
    exact ⟨file, ⟨hfile, ⟨root, hroot⟩, present, hpresent⟩,
      (endsWell_entriesAt hpresent).mp hentries, hload⟩
  · rintro ⟨file, ⟨hfile, ⟨root, hroot⟩, present, hpresent⟩, hlegible, hload⟩
    refine ⟨⟨file, hfile⟩, fun file' hfile' => ?_⟩
    obtain rfl := Except.ok.inj (hfile.symm.trans hfile')
    exact ⟨⟨root, hroot⟩, fun _ _ => ⟨(endsWell_entriesAt hpresent).mpr hlegible, hload⟩⟩

/-- When reading the settings ends with settings or with a failure that is reported as one of them,
if the reader of YAML gives a value for each text or refuses it as malformed. The file has to be one
that can be asked for; if it is there, its bytes have to be a text; and no integer that is wanted as
text may have too many digits. If the number of workers is refused, the manifest and the settings
after it are not looked at. -/
theorem load_endsWell_iff (hread : read.Reliable) (w : Workspace) (path : Path)
    (environment : Environment) :
    EndsWell (loadBy read w path environment) ↔ ∃ file, Locates w path file ∧ HoldsText w file ∧
      ∀ es, entriesAt read w file = .ok es → es.EarlyShort ∧
        ((∃ workers, workers? (es.get "workers") = .ok workers) →
          (∀ p, named? environment = some p → Expands w p) ∧ es.LateShort environment) := by
  simp only [endsWell_loadBy_iff, legible_iff_holdsText hread]

/-- The library's own reader, with all its failures told as malformed texts. -/
def plainReader : Yaml.Reader := fun text => (Yaml.Document.read text).mapError fun _ => .malformed

theorem reliable_plainReader : plainReader.Reliable := by
  intro text e he
  unfold plainReader at he
  cases hread : Yaml.Document.read text with
  | ok document =>
    rw [hread] at he
    cases he
  | error cause =>
    rw [hread] at he
    exact (Except.error.inj he).symm

/-- A settings file with a byte that begins no character. -/
def garbled : Workspace := ⟨.directory [(fileName, .file ⟨#[0xff]⟩ 0)], [], none, 0⟩

/-- Bytes that are no text are not reported as a failure of the settings. -/
theorem load_endsWell_iff_garbled :
    plainReader.Reliable ∧ loadBy plainReader garbled .here [] = .error .notText ∧
      ¬EndsWell (loadBy plainReader garbled .here []) := by
  have hbad : String.fromUTF8? ⟨#[0xff]⟩ = none := by decide +kernel
  have hfile : fileAt garbled .here = .ok ⟨.root, [fileName]⟩ := by rfl
  have hbytes : garbled.readBytes ⟨.root, [fileName]⟩ = .ok ⟨#[0xff]⟩ := by rfl
  refine ⟨reliable_plainReader, ?_, fun hends => ?_⟩
  · rw [loadBy, hfile]
    rfl
  · obtain ⟨file, hlocates, htext, -⟩ :=
      (load_endsWell_iff reliable_plainReader garbled .here []).mp hends
    obtain rfl := Except.ok.inj (hfile.symm.trans hlocates.fileAt)
    obtain ⟨s, hs⟩ := htext _ hbytes
    rw [hbad] at hs
    cases hs

end Config
end RetentionPlan
