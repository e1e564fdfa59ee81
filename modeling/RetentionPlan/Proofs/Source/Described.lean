import RetentionPlan.Proofs.Source.Qualification
import RetentionPlan.Source.Comparison

/-!
# What descriptors are made from

Whatever files come and go, and whatever is remembered of them, a name resolves to nothing but the
descriptor of a type that a module declares, and a module is nothing but the statements of a text
that follows the grammar. So what holds of all such descriptors holds of everything that is ever
found.
-/
namespace RetentionPlan.Source

open Loading (LoadError Question answer after)

/-- Is a module made of the statements of a text? -/
def Module.Parsed (module : Module) : Prop :=
  ∃ name path text body, statementsOf? text = some body ∧
    Module.ofStatements name path body = module

/-- Is every remembered module made of the statements of a text? -/
def Remembered (cache : Cache) : Prop := ∀ entry ∈ cache, entry.module.Parsed

def Described (d : TypeDescriptor) : Prop :=
  ∃ (module : Module) (localName : String) (declared : TypeStatement), module.Parsed ∧
    module.type? localName = some declared ∧ d = module.describe localName declared

theorem remembered_nil : Remembered [] := by simp [Remembered]

/-- Does a query keep modules made of texts in memory, and is what it gives good, if it gives
anything? -/
def Yields {α : Type} (good : α → Prop) (x : Load α) : Prop :=
  ∀ cache, Remembered cache → Remembered (after x.run cache) ∧ ∀ a, answer x.run cache = .ok a →
    good a

namespace Yields
variable {α β : Type} {good : α → Prop} {good' : β → Prop}

theorem pure {a : α} (h : good a) : Yields good (pure a : Load α) :=
  fun _ hcache => ⟨hcache, fun _ ha => Except.ok.inj ha ▸ h⟩

theorem throw (e : LoadError) : Yields good (throw e : Load α) := fun _ hcache => ⟨hcache, nofun⟩

theorem bind {x : Load α} {f : α → Load β} (hx : Yields good x)
    (hf : ∀ a, good a → Yields good' (f a)) : Yields good' (x >>= f) := by
  intro cache hcache
  obtain ⟨hkeeps, hgood⟩ := hx cache hcache
  rw [ExceptT.run_bind, Loading.answer_bind, Loading.after_bind]
  cases hanswer : answer x.run cache with
  | error e => exact ⟨hkeeps, nofun⟩
  | ok a => exact hf a (hgood a hanswer) _ hkeeps

/-- Going on after asking what a path leads to. -/
theorem bind_accessible {r : Except FileError α} {f : α → Load β} (hf : ∀ a, Yields good' (f a)) :
    Yields good' (accessible r >>= f) := by
  cases r with
  | error e => exact throw _
  | ok a => exact hf a

end Yields

variable {w : Workspace} {roots : List Path} {path root : Path} {name : String} {cache : Cache}

theorem parsed_of_freshModule {module : Module} (h : freshModule w path root = .ok module) :
    module.Parsed := by
  obtain ⟨name, text, body, -, -, hbody, rfl⟩ := freshModule_eq_ok_iff.mp h
  exact ⟨name, path, text, body, hbody, rfl⟩

theorem parsed_of_recalled? {module : Module} (hcache : Remembered cache)
    (h : cache.recalled? w path = some module) : module.Parsed := by
  unfold Cache.recalled? at h
  cases hnode : w.stat path with
  | error e => simp [hnode] at h
  | ok node =>
    simp only [hnode, Cache.module?, Option.map_eq_some_iff] at h
    obtain ⟨entry, hentry, rfl⟩ := h
    exact hcache entry (List.mem_of_find?_eq_some hentry)

theorem yields_readModule (w : Workspace) (path root : Path) :
    Yields Module.Parsed (readModule w path root) := by
  intro cache hcache
  obtain ⟨hanswer, hafter⟩ := readModule_run w path root cache
  refine ⟨?_, fun module hmodule => ?_⟩
  · rcases hafter with ⟨-, hsame⟩ | ⟨node, module, -, hmodule, hnew⟩
    · rwa [hsame]
    · rw [hnew]
      intro entry hentry
      rcases List.mem_cons.mp hentry with rfl | hold
      · exact parsed_of_freshModule hmodule
      · exact hcache entry (List.mem_of_mem_filter hold)
  · rw [hanswer] at hmodule
    cases hrecalled : cache.recalled? w path with
    | none =>
      rw [hrecalled] at hmodule
      exact parsed_of_freshModule hmodule
    | some old =>
      rw [hrecalled] at hmodule
      exact Except.ok.inj hmodule ▸ parsed_of_recalled? hcache hrecalled

theorem yields_module? : Yields (∀ module ∈ ·, Module.Parsed module) (module? w path root) := by
  intro cache hcache
  obtain ⟨hkeeps, hparsed⟩ := yields_readModule w path root cache hcache
  rw [module?, ExceptT.run_tryCatch, ExceptT.run_map, Loading.answer_bind, Loading.after_bind,
    Loading.answer_map, Loading.after_map]
  rcases hread : answer (readModule w path root).run cache with (why | fault) | module
  · refine ⟨hkeeps, fun found hfound module hmodule => ?_⟩
    obtain rfl : none = found := Except.ok.inj hfound
    cases hmodule
  · refine ⟨hkeeps, fun found hfound => ?_⟩
    cases hfound
  · refine ⟨hkeeps, fun found hfound => ?_⟩
    obtain rfl : some module = found := Except.ok.inj hfound
    intro module' hmodule'
    exact Option.some.inj hmodule' ▸ hparsed module hread

theorem yields_findModule (name : String) (roots : List Path) :
    Yields (∀ module ∈ ·, Module.Parsed module) (findModule w name roots) := by
  induction roots with
  | nil => exact .pure nofun
  | cons root rest ih =>
    unfold findModule
    refine .bind_accessible fun isFile => ?_
    split_ifs
    · exact yields_module?
    · exact ih
    · dsimp only
      cases (Path.ofStrings (dottedParts name)).withSuffix ".py" with
      | error e => exact .throw _
      | ok file =>
        refine .bind_accessible fun isFile => ?_
        split_ifs
        · exact yields_module?
        · refine .bind_accessible fun isFile => ?_
          split_ifs
          · exact yields_module?
          · exact ih

theorem yields_leadOf (name : String) (all : List (String × String)) :
    Yields (fun lead => ∀ d, lead = .type d → Described d) (leadOf w roots name all) := by
  induction all with
  | nil => exact .throw _
  | cons cut rest ih =>
    obtain ⟨moduleName, localName⟩ := cut
    refine (yields_findModule moduleName roots).bind fun found hparsed => ?_
    cases hlead : found.bind (·.lead? name localName) with
    | none => exact ih
    | some lead =>
      refine .pure fun d hd => ?_
      obtain ⟨module, hmodule, hleads⟩ := Option.bind_eq_some_iff.mp hlead
      obtain ⟨declared, htype, hdescribed⟩ := exists_type?_of_lead? (hd ▸ hleads)
      exact ⟨module, localName, declared, hparsed module hmodule, htype, hdescribed⟩

theorem yields_follow (hops : Nat) (visited : List String) (name : String) :
    Yields Described (follow w roots hops visited name) := by
  induction hops generalizing visited name with
  | zero => exact .throw _
  | succ hops ih =>
    unfold follow
    by_cases hvisited : name ∈ visited
    · rw [if_pos hvisited]
      exact .throw _
    · rw [if_neg hvisited]
      refine (yields_leadOf name (cuts name)).bind fun lead hlead => ?_
      cases lead with
      | type d => exact .pure (hlead d rfl)
      | elsewhere target => exact ih _ _

/-- Every question keeps modules made of texts in memory. -/
theorem remembered_after_reply (hcache : Remembered cache) (question : Question) :
    Remembered (after (reply w roots question) cache) := by
  cases question with
  | resolve name =>
    rw [reply, Loading.after_map]
    exact (yields_follow maxReexports [] name cache hcache).1
  | declaredTypes path root =>
    have hread := (yields_readModule w path root cache hcache).1
    rw [reply, Loading.after_map]
    show Remembered (after (Module.typeNames <$> readModule w path root).run cache)
    rwa [ExceptT.run_map, Loading.after_map]

/-- What a loader remembers after some questions. -/
def memory (roots : List Path) (history : List Occasion) : Cache :=
  history.foldl (fun cache o => after (reply o.workspace roots o.question) cache) []

/-- Modules made of texts are all that a loader ever remembers. -/
theorem remembered_memory (roots : List Path) (history : List Occasion) :
    Remembered (memory roots history) := by
  have hall (cache : Cache) (hcache : Remembered cache) :
      Remembered (history.foldl (fun cache o => after (reply o.workspace roots o.question) cache)
        cache) := by
    induction history generalizing cache with
    | nil => exact hcache
    | cons o rest ih => exact ih _ (remembered_after_reply hcache o.question)
  exact hall [] remembered_nil

/-- A loader made anew remembers nothing. -/
theorem resolve_memory_nil {d : TypeDescriptor}
    (h : ((freshLoader w roots).resolve name).run = .ok d) :
    answer ((sourceLoader w roots).resolve name) (memory roots []) = .ok d := h

/-- A name resolves to nothing but the descriptor of a type that a module declares. -/
theorem described_of_resolve {history : List Occasion} {d : TypeDescriptor}
    (h : answer ((sourceLoader w roots).resolve name) (memory roots history) = .ok d) :
    Described d :=
  (yields_follow maxReexports [] name _ (remembered_memory roots history)).2 d h

/-- Does a search find a module of the name with the given statements? -/
def finds (w : Workspace) (roots : List Path) (name : String) (body : List Stmt) : Bool :=
  ((freshSearch w roots name).toOption.bind id).any fun module =>
    module.name = name && (Stmt.sameAll? module.body body).isSome

theorem exists_search_of_finds {body : List Stmt} (h : finds w roots name body = true) :
    ∃ path, freshSearch w roots name = .ok (some (.ofStatements name path body)) := by
  unfold finds at h
  rcases hsearch : freshSearch w roots name with e | _ | module
  · simp [hsearch, Except.toOption] at h
  · simp [hsearch, Except.toOption] at h
  · simp only [hsearch, Except.toOption, Option.bind_some, id_eq, Option.any_some, Bool.and_eq_true,
      decide_eq_true_eq, Option.isSome_iff_exists] at h
    obtain ⟨hname, ⟨hbody⟩, -⟩ := h
    obtain ⟨path, base, -, hmodule⟩ := exists_heldFirst hsearch
    obtain ⟨name', text, body', -, -, -, rfl⟩ := freshModule_eq_ok_iff.mp hmodule
    obtain rfl : name' = name := hname
    obtain rfl : body' = body := hbody
    exact ⟨path, rfl⟩

theorem exists_resolve_of_finds {id : String} {body : List Stmt} {declared : TypeStatement}
    (h : finds w roots name body = true) (hid : '.' ∉ id.toList)
    (htype : (bindAll (typesOf "" body)).lookup id = some declared) :
    ∃ path, answer ((sourceLoader w roots).resolve (name ++ "." ++ id)) (memory roots []) =
      .ok ((Module.ofStatements name path body).describe id declared) := by
  obtain ⟨path, hsearch⟩ := exists_search_of_finds h
  have hname : (Module.ofStatements name path body).name = name := rfl
  have hmodule : freshSearch w roots (Module.ofStatements name path body).name =
      .ok (some (.ofStatements name path body)) := hsearch
  have hresolve := resolve_below_of_declared hmodule hid htype
  rw [hname] at hresolve
  exact ⟨path, resolve_memory_nil hresolve⟩

/-- A module in a directory of its own. -/
def alone (text : String) : Workspace where
  top := .directory [("m.py", .file text.toUTF8 0)]
  cwd := []
  home := none
  now := 0

end RetentionPlan.Source
