import Mathlib.Tactic.SplitIfs
import RetentionPlan.Proofs.FileTree.Contents
import RetentionPlan.Proofs.Loading.Trace
import RetentionPlan.Proofs.Source.Reexports

/-!
# Queries that do not depend on what is remembered

A module is remembered by the path of its file and by the file's size and time, and not by the
directory that its name is counted from. So what a query gives depends on the queries before it,
unless size and time tell the contents of a file and no file is read under two names. Where both
hold, it does not.
-/
namespace RetentionPlan.Source

open Loading (LoadError Question answer after)

/-- Does a computation give the same from all states in which an invariant holds, and keep it? -/
def Steady {σ α : Type} (inv : σ → Prop) (x : StateM σ α) : Prop :=
  ∀ s, inv s → inv (after x s) ∧ ∀ s', inv s' → answer x s = answer x s'

namespace Steady
variable {σ α β : Type} {inv : σ → Prop}

theorem pure (a : α) : Steady inv (pure a : StateM σ α) := fun _ hs => ⟨hs, fun _ _ => rfl⟩

theorem bind {x : StateM σ α} {f : α → StateM σ β} (hx : Steady inv x)
    (hf : ∀ s, inv s → Steady inv (f (answer x s))) : Steady inv (x >>= f) := by
  intro s hs
  obtain ⟨hkeeps, hsame⟩ := hx s hs
  obtain ⟨hkeeps', hsame'⟩ := hf s hs (after x s) hkeeps
  refine ⟨hkeeps', fun s' hs' => ?_⟩
  rw [Loading.answer_bind, Loading.answer_bind, ← hsame s' hs']
  exact hsame' (after x s') (hx s' hs').1

theorem bind_any {x : StateM σ α} {f : α → StateM σ β} (hx : Steady inv x)
    (hf : ∀ a, Steady inv (f a)) : Steady inv (x >>= f) :=
  hx.bind fun _ _ => hf _

/-- Going on after a query that may fail. -/
theorem bind_load {inv : Cache → Prop} {x : Load α} {f : α → Load β} (hx : Steady inv x.run)
    (hf : ∀ a, Steady inv (f a).run) : Steady inv (x >>= f).run := by
  rw [ExceptT.run_bind]
  refine hx.bind_any fun r => ?_
  cases r with
  | error e => exact .pure _
  | ok a => exact hf a

end Steady

variable {w : Workspace} {path root : Path}

/-- What reading a file anew gives. -/
def freshModule (w : Workspace) (path root : Path) : Except LoadError Module :=
  answer (readModule w path root).run []

/-- The remembered module of a file in its present state. -/
def Cache.recalled? (cache : Cache) (w : Workspace) (path : Path) : Option Module :=
  match w.stat path with
  | .ok node => cache.module? path (stamp node).1 (stamp node).2
  | .error _ => none

theorem run_get_bind {α : Type} (f : Cache → Load α) (cache : Cache) :
    (do f (← get) : Load α).run cache = (f cache).run cache := rfl

/-- Reading a file gives what is remembered of it, or else what reading it anew gives, and then that
is remembered. -/
theorem readModule_run (w : Workspace) (path root : Path) (cache : Cache) :
    answer (readModule w path root).run cache =
        (cache.recalled? w path).elim (freshModule w path root) .ok ∧
      ((cache.recalled? w path = none → ∀ module, freshModule w path root ≠ .ok module) ∧
          after (readModule w path root).run cache = cache ∨
        ∃ node module, w.stat path = .ok node ∧ freshModule w path root = .ok module ∧
          after (readModule w path root).run cache =
            cache.remember ⟨path, (stamp node).1, (stamp node).2, module⟩) := by
  have fails {p : Prop} {e : LoadError} : p → ∀ module : Module, Except.error e ≠ .ok module :=
    fun _ _ h => by cases h
  unfold freshModule readModule Cache.recalled?
  cases w.stat path with
  | error e => cases e <;> exact ⟨rfl, .inl ⟨fails, rfl⟩⟩
  | ok node =>
    have hnil : Cache.module? [] path (stamp node).1 (stamp node).2 = none := rfl
    simp only [pure_bind, answer, after, StateT.run, run_get_bind, hnil]
    cases cache.module? path (stamp node).1 (stamp node).2 with
    | some module => exact ⟨rfl, .inl ⟨nofun, rfl⟩⟩
    | none =>
      rcases moduleName path root with (_ | _) | name
      · exact ⟨rfl, .inl ⟨fails, rfl⟩⟩
      · exact ⟨rfl, .inl ⟨fails, rfl⟩⟩
      · dsimp only
        rcases w.readText path with ((_ | _ | _) | _) | text
        · exact ⟨rfl, .inl ⟨fails, rfl⟩⟩
        · exact ⟨rfl, .inl ⟨fails, rfl⟩⟩
        · exact ⟨rfl, .inl ⟨fails, rfl⟩⟩
        · exact ⟨rfl, .inl ⟨fails, rfl⟩⟩
        · dsimp only
          cases statementsOf? text with
          | none => exact ⟨rfl, .inl ⟨fails, rfl⟩⟩
          | some body => exact ⟨rfl, .inr ⟨node, .ofStatements name path body, rfl, rfl, rfl⟩⟩

/-- A file is a module if it has a name and its text follows the grammar. -/
theorem freshModule_eq_ok_iff {module : Module} :
    freshModule w path root = .ok module ↔
      ∃ name text body, moduleName path root = .ok name ∧ w.readText path = .ok text ∧
        statementsOf? text = some body ∧ .ofStatements name path body = module := by
  have refuses {e : LoadError} {p : Prop} (hp : ¬ p) :
      (Except.error e : Except LoadError Module) = .ok module ↔ p :=
    iff_of_false (fun h => by cases h) hp
  unfold freshModule readModule
  cases hstat : w.stat path with
  | error e =>
    have hread : w.readText path = .error (.access e) := by
      simp [Workspace.readText, Workspace.readBytes, hstat]
    cases e <;> exact refuses (by simp [hread])
  | ok node =>
    have hnil : Cache.module? [] path (stamp node).1 (stamp node).2 = none := rfl
    simp only [pure_bind, answer, StateT.run, run_get_bind, hnil]
    rcases moduleName path root with (_ | _) | name
    · exact refuses (by simp)
    · exact refuses (by simp)
    · dsimp only
      rcases w.readText path with ((_ | _ | _) | _) | text
      · exact refuses (by simp)
      · exact refuses (by simp)
      · exact refuses (by simp)
      · exact refuses (by simp)
      · dsimp only
        cases hbody : statementsOf? text with
        | none => exact refuses (by simp [hbody])
        | some body =>
          show (Except.ok _ : Except LoadError Module) = _ ↔ _
          simp [hbody]

theorem moduleName_of_freshModule {module : Module} (h : freshModule w path root = .ok module) :
    moduleName path root = .ok module.name := by
  obtain ⟨name, text, body, hname, -, -, rfl⟩ := freshModule_eq_ok_iff.mp h
  exact hname

/-- Do the size and the time of a file tell its contents in all of some workspaces? -/
def StampsTell (known : Workspace → Prop) : Prop :=
  ∀ w w' path node node', known w → known w' → w.stat path = .ok node → w'.stat path = .ok node' →
    stamp node = stamp node' → node.bytes? = node'.bytes?

/-- One state of the files tells their contents. -/
theorem stampsTell_of_eq {known : Workspace → Prop} {w : Workspace} (h : ∀ w', known w' → w' = w) :
    StampsTell known := by
  intro w₁ w₂ path node node' h₁ h₂ hnode hnode' _
  rw [h w₁ h₁] at hnode
  rw [h w₂ h₂] at hnode'
  rw [Except.ok.inj (hnode.symm.trans hnode')]

def CanBeFile (path : Path) : Prop :=
  ∃ (w : Workspace) (content : ByteArray) (modified : Int),
    w.stat path = .ok (.file content modified)

/-- Is no file counted under two names, from whichever of the directories that go with it? -/
def OneName (places : (path root : Path) → Prop) : Prop :=
  ∀ path root root' name, places path root → places path root' → CanBeFile path →
    moduleName path root = .ok name → moduleName path root' = .ok name

/-- Is every remembered module what reading its file anew has given? -/
def Faithful (known : Workspace → Prop) (places : (path root : Path) → Prop) (cache : Cache) :
    Prop :=
  ∀ entry ∈ cache, ∃ w node root, known w ∧ places entry.path root ∧ w.stat entry.path = .ok node ∧
    stamp node = (entry.size, entry.modified) ∧ freshModule w entry.path root = .ok entry.module

variable {known : Workspace → Prop} {places : (path root : Path) → Prop}

theorem faithful_nil : Faithful known places [] := by simp [Faithful]

theorem faithful_remember {cache : Cache} (h : Faithful known places cache) {node : FileNode}
    {module : Module} (hw : known w) (hplace : places path root) (hnode : w.stat path = .ok node)
    (hmodule : freshModule w path root = .ok module) :
    Faithful known places (cache.remember ⟨path, (stamp node).1, (stamp node).2, module⟩) := by
  intro entry hentry
  rcases List.mem_cons.mp hentry with rfl | hold
  · exact ⟨w, node, root, hw, hplace, hnode, rfl, hmodule⟩
  · exact h entry (List.mem_of_mem_filter hold)

theorem freshModule_of_recalled? (htell : StampsTell known) (hname : OneName places) (hw : known w)
    (hplace : places path root) {cache : Cache} (hcache : Faithful known places cache)
    {module : Module} (h : cache.recalled? w path = some module) :
    freshModule w path root = .ok module := by
  unfold Cache.recalled? at h
  cases hnode : w.stat path with
  | error e => simp [hnode] at h
  | ok node =>
    rw [hnode] at h
    simp only [Cache.module?, Option.map_eq_some_iff] at h
    obtain ⟨entry, hentry, rfl⟩ := h
    have hkey := List.find?_some hentry
    simp only [Bool.and_eq_true, decide_eq_true_eq] at hkey
    obtain ⟨⟨rfl, hsize⟩, hmodified⟩ := hkey
    obtain ⟨w', node', root', hw', hplace', hnode', hstamp, hread⟩ :=
      hcache entry (List.mem_of_find?_eq_some hentry)
    obtain ⟨name, text, body, hcounted, htext, hbody, hmodule⟩ := freshModule_eq_ok_iff.mp hread
    have hsame : stamp node' = stamp node := by rw [hstamp, hsize, hmodified]
    have hbytes : node'.bytes? = node.bytes? :=
      htell w' w entry.path node' node hw' hw hnode' hnode hsame
    have hfile : CanBeFile entry.path := by
      cases node' with
      | file content modified => exact ⟨w', content, modified, hnode'⟩
      | directory entries => simp [Workspace.readText, Workspace.readBytes, hnode'] at htext
    exact freshModule_eq_ok_iff.mpr ⟨name, text, body,
      hname _ _ _ _ hplace' hplace hfile hcounted,
      Workspace.readText_of_bytes? hnode' hnode hbytes htext, hbody, hmodule⟩

theorem answer_readModule_of_faithful (htell : StampsTell known) (hname : OneName places)
    (hw : known w)
    (hplace : places path root) {cache : Cache} (hcache : Faithful known places cache) :
    answer (readModule w path root).run cache = freshModule w path root := by
  rw [(readModule_run w path root cache).1]
  cases h : cache.recalled? w path with
  | none => rfl
  | some module => exact (freshModule_of_recalled? htell hname hw hplace hcache h).symm

theorem steady_readModule (htell : StampsTell known) (hname : OneName places) (hw : known w)
    (hplace : places path root) : Steady (Faithful known places) (readModule w path root).run := by
  intro cache hcache
  constructor
  · rcases (readModule_run w path root cache).2
      with ⟨-, hsame⟩ | ⟨node, module, hnode, hread, hafter⟩
    · rwa [hsame]
    · rw [hafter]
      exact faithful_remember hcache hw hplace hnode hread
  · intro cache' hcache'
    rw [answer_readModule_of_faithful htell hname hw hplace hcache,
      answer_readModule_of_faithful htell hname hw hplace hcache']

theorem steady_module? (htell : StampsTell known) (hname : OneName places) (hw : known w)
    (hplace : places path root) : Steady (Faithful known places) (module? w path root).run := by
  have hread : Steady (Faithful known places) (some <$> readModule w path root).run := by
    rw [map_eq_pure_bind]
    exact (steady_readModule htell hname hw hplace).bind_load fun module => .pure _
  unfold module?
  rw [ExceptT.run_tryCatch]
  refine hread.bind_any fun r => ?_
  rcases r with (why | fault) | module
  · exact .pure _
  · exact .pure _
  · exact .pure _

/-- Going on after asking what a path leads to. -/
theorem Steady.bind_accessible {α β : Type} {inv : Cache → Prop} {r : Except FileError α}
    {f : α → Load β} (hf : ∀ a, r = .ok a → Steady inv (f a).run) :
    Steady inv (accessible r >>= f).run := by
  cases r with
  | error e => exact .pure _
  | ok a => exact hf a rfl

/-- A file that a search below `root` for the module of a name may read, and the directory that the
file is counted from. -/
inductive Candidate (w : Workspace) (name : String) (root : Path) : (path base : Path) → Prop
  | itself : w.isFile root = .ok true → Candidate w name root root root.parent
  | file {file : Path} : w.isFile root = .ok false →
      (Path.ofStrings (dottedParts name)).withSuffix ".py" = .ok file →
      w.isFile (root.join file) = .ok true → Candidate w name root (root.join file) root
  | initialiser : w.isFile root = .ok false →
      w.isFile (root.join (Path.ofStrings (dottedParts name)) / Module.initialiserFile) = .ok true →
      Candidate w name root (root.join (Path.ofStrings (dottedParts name)) / Module.initialiserFile)
        root

theorem steady_findModule (htell : StampsTell known) (hname : OneName places) (hw : known w)
    {roots : List Path} {name : String}
    (hplace : ∀ root ∈ roots, ∀ path base, Candidate w name root path base → places path base) :
    Steady (Faithful known places) (findModule w name roots).run := by
  have hmodule {path base : Path} (h : places path base) :
      Steady (Faithful known places) (module? w path base).run := steady_module? htell hname hw h
  induction roots with
  | nil => exact .pure _
  | cons root rest ih =>
    rw [List.forall_mem_cons] at hplace
    obtain ⟨hhere, hlater⟩ := hplace
    have hrest := ih hlater
    unfold findModule
    refine .bind_accessible fun isFile hroot => ?_
    cases isFile with
    | true =>
      rw [if_pos rfl]
      split_ifs
      · exact hmodule (hhere _ _ (.itself hroot))
      · exact hrest
    | false =>
      rw [if_neg Bool.false_ne_true]
      dsimp only
      cases hfile : (Path.ofStrings (dottedParts name)).withSuffix ".py" with
      | error e => exact .pure _
      | ok file =>
        dsimp only
        refine .bind_accessible fun isFile hisFile => ?_
        cases isFile with
        | true => exact hmodule (hhere _ _ (.file hroot hfile hisFile))
        | false =>
          rw [if_neg Bool.false_ne_true]
          refine .bind_accessible fun isFile hisFile => ?_
          cases isFile with
          | true => exact hmodule (hhere _ _ (.initialiser hroot hisFile))
          | false => exact hrest

theorem steady_look (htell : StampsTell known) (hname : OneName places) (hw : known w)
    {roots : List Path} {name : String}
    (hplace : ∀ cut ∈ cuts name, ∀ root ∈ roots, ∀ path base, Candidate w cut.1 root path base →
      places path base) :
    Steady (Faithful known places) (look w roots name) := by
  unfold look
  generalize cuts name = all at hplace
  induction all with
  | nil => exact .pure _
  | cons cut rest ih =>
    rw [List.forall_mem_cons] at hplace
    obtain ⟨moduleName, localName⟩ := cut
    refine (steady_findModule htell hname hw hplace.1).bind_load fun found => ?_
    cases found.bind (·.lead? name localName) with
    | some lead => exact .pure _
    | none => exact ih hplace.2

theorem follow_succ_run (w : Workspace) (roots : List Path) (hops : Nat) (visited : List String)
    (name : String) :
    (follow w roots (hops + 1) visited name).run =
      if name ∈ visited then pure (.error (.unresolved (.circularReexport name)))
      else look w roots name >>= fun
        | .error e => pure (.error e)
        | .ok (.type d) => pure (.ok d)
        | .ok (.elsewhere target) => (follow w roots hops (name :: visited) target).run := by
  by_cases hvisited : name ∈ visited
  · simp only [follow, if_pos hvisited]
    rfl
  · simp only [follow, if_neg hvisited]
    rw [ExceptT.run_bind, ← look]
    refine bind_congr fun lead => ?_
    rcases lead with e | d | target <;> rfl

/-- A name is followed in the same way whatever is remembered, if its chain only leads past files of
one name. -/
theorem follow_of_faithful (htell : StampsTell known) (hname : OneName places) (hw : known w)
    {roots : List Path} {hops : Nat} {visited : List String} {name : String} {cache cache' : Cache}
    (hcache : Faithful known places cache) (hcache' : Faithful known places cache')
    (hplace : ∀ passed ∈ (chain w roots hops visited name cache').names, ∀ cut ∈ cuts passed,
      ∀ root ∈ roots, ∀ path base, Candidate w cut.1 root path base → places path base) :
    Faithful known places (after (follow w roots hops visited name).run cache) ∧
      answer (follow w roots hops visited name).run cache =
        answer (follow w roots hops visited name).run cache' := by
  induction hops generalizing visited name cache cache' with
  | zero => exact ⟨hcache, rfl⟩
  | succ hops ih =>
    rw [follow_succ_run]
    by_cases hvisited : name ∈ visited
    · rw [if_pos hvisited]
      exact ⟨hcache, rfl⟩
    · have hlook := steady_look htell hname hw (hplace name mem_names_chain)
      simp only [chain, if_neg hvisited] at hplace ⊢
      obtain ⟨hkeeps, hsame⟩ := hlook cache hcache
      rw [Loading.answer_bind, Loading.answer_bind, Loading.after_bind, hsame cache' hcache']
      rcases hlead : answer (look w roots name) cache' with e | d | target
      · simpa only [Loading.after_pure, Loading.answer_pure, and_true] using hkeeps
      · simpa only [Loading.after_pure, Loading.answer_pure, and_true] using hkeeps
      · simp only [hlead, List.forall_mem_cons] at hplace
        exact ih hkeeps (hlook cache' hcache').1 hplace.2

end RetentionPlan.Source
