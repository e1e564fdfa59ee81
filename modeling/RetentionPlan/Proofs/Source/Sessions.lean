import RetentionPlan.Proofs.FileTree.Contents
import RetentionPlan.Proofs.Source.Steady

/-!
# Sessions of a loader

A loader that lives long answers questions while files come, change and go. Its answers are those of
a loader made anew for every question as long as size and time tell the contents of files and no
file is met under two names; and whichever files are met, some session goes wrong if one of them can
have two names.
-/
namespace RetentionPlan.Source

open Loading (LoadError Question answer after)

inductive Reply where
  | type (found : Except LoadError TypeDescriptor)
  | names (declared : Except LoadError (List String))

def reply (w : Workspace) (roots : List Path) : Question → StateM Cache Reply
  | .resolve name => .type <$> (sourceLoader w roots).resolve name
  | .declaredTypes path root => .names <$> (sourceLoader w roots).declaredTypes path root

/-- A question, and the files as they are when it is asked. -/
structure Occasion where
  workspace : Workspace
  question : Question

/-- What a loader answers that is made anew for the question. -/
def Occasion.freshReply (roots : List Path) (o : Occasion) : Reply :=
  answer (reply o.workspace roots o.question) []

/-- What one loader answers to questions one after the other. -/
def session (roots : List Path) : List Occasion → Cache → List Reply
  | [], _ => []
  | o :: rest, cache =>
    answer (reply o.workspace roots o.question) cache ::
      session roots rest (after (reply o.workspace roots o.question) cache)

def Known (history : List Occasion) (w : Workspace) : Prop := ∃ o ∈ history, o.workspace = w

/-- A file that may be read for a question asked anew, and the directory that the file is counted
from. -/
inductive Touches (roots : List Path) (o : Occasion) : (path root : Path) → Prop
  | declared {path root : Path} : o.question = .declaredTypes path root → Touches roots o path root
  | followed {name passed : String} {cut : String × String} {root path base : Path} :
      o.question = .resolve name →
      passed ∈ (chain o.workspace roots maxReexports [] name []).names → cut ∈ cuts passed →
      root ∈ roots → Candidate o.workspace cut.1 root path base → Touches roots o path base

variable {roots : List Path} {known : Workspace → Prop} {places : (path root : Path) → Prop}

/-- Asking for the types of a file touches that file alone. -/
theorem touches_declaredTypes {w : Workspace} {path root path' root' : Path}
    (h : Touches roots ⟨w, .declaredTypes path root⟩ path' root') :
    path' = path ∧ root' = root := by
  cases h with
  | declared hquestion =>
    cases hquestion
    exact ⟨rfl, rfl⟩
  | followed hquestion => cases hquestion

theorem reply_of_faithful (htell : StampsTell known) (hname : OneName places) {o : Occasion}
    (hw : known o.workspace) (htouches : ∀ path root, Touches roots o path root → places path root)
    {cache : Cache} (hcache : Faithful known places cache) :
    Faithful known places (after (reply o.workspace roots o.question) cache) ∧
      answer (reply o.workspace roots o.question) cache = o.freshReply roots := by
  obtain ⟨w, question⟩ := o
  cases question with
  | resolve name =>
    have hplace : ∀ passed ∈ (chain w roots maxReexports [] name []).names, ∀ cut ∈ cuts passed,
        ∀ root ∈ roots, ∀ path base, Candidate w cut.1 root path base → places path base :=
      fun passed hpassed cut hcut root hroot path base hcandidate =>
        htouches path base (.followed rfl hpassed hcut hroot hcandidate)
    have hfollow := follow_of_faithful htell hname hw hcache faithful_nil hplace
    rw [Occasion.freshReply, reply, Loading.answer_map, Loading.answer_map, Loading.after_map]
    exact ⟨hfollow.1, congrArg Reply.type hfollow.2⟩
  | declaredTypes path root =>
    have hread : Steady (Faithful known places)
        (Module.typeNames <$> readModule w path root).run := by
      rw [map_eq_pure_bind]
      exact (steady_readModule htell hname hw (htouches path root (.declared rfl))).bind_load
        fun module => .pure _
    obtain ⟨hkeeps, hsame⟩ := hread cache hcache
    rw [Occasion.freshReply, reply, Loading.answer_map, Loading.answer_map, Loading.after_map]
    exact ⟨hkeeps, congrArg Reply.names (hsame [] faithful_nil)⟩

theorem session_of_faithful (htell : StampsTell known) (hname : OneName places)
    {history : List Occasion} (hknown : ∀ o ∈ history, known o.workspace)
    (htouches : ∀ o ∈ history, ∀ path root, Touches roots o path root → places path root)
    {cache : Cache} (hcache : Faithful known places cache) :
    session roots history cache = history.map (·.freshReply roots) := by
  induction history generalizing cache with
  | nil => rfl
  | cons o rest ih =>
    rw [List.forall_mem_cons] at hknown htouches
    obtain ⟨hkeeps, hsame⟩ := reply_of_faithful htell hname hknown.1 htouches.1 hcache
    rw [session, hsame, ih hknown.2 htouches.2 hkeeps, List.map_cons]

/-- The text of a module that declares one type. -/
def oneType : String := "class A: pass"

theorem typeNames_oneType :
    (statementsOf? oneType).map (fun body => (bindAll (typesOf "" body)).map (·.1)) =
      some ["A"] := by
  decide +kernel

theorem readText_oneType {w : Workspace} {path : Path} {modified : Int}
    (h : w.stat path = .ok (.file oneType.toUTF8 modified)) : w.readText path = .ok oneType := by
  have htext : String.fromUTF8? oneType.toUTF8 = some oneType := by decide +kernel
  have hbreaks : String.ofList (Workspace.plainBreaks oneType.toList) = oneType := by decide +kernel
  simp only [Workspace.readText, Workspace.readBytes, h, htext, hbreaks]

section
variable {w : Workspace} {path root : Path} {modified : Int} {module : Module}

theorem exists_freshModule_oneType (h : w.stat path = .ok (.file oneType.toUTF8 modified))
    {name : String}
    (hname : moduleName path root = .ok name) : ∃ module, freshModule w path root = .ok module := by
  have htypes := typeNames_oneType
  simp only [Option.map_eq_some_iff] at htypes
  obtain ⟨body, hbody, -⟩ := htypes
  exact ⟨.ofStatements name path body,
    freshModule_eq_ok_iff.mpr ⟨name, oneType, body, hname, readText_oneType h, hbody, rfl⟩⟩

theorem types_of_oneType (h : w.stat path = .ok (.file oneType.toUTF8 modified))
    (hmodule : freshModule w path root = .ok module) : module.types.map (·.1) = ["A"] := by
  obtain ⟨name, text, body, -, htext, hbody, rfl⟩ := freshModule_eq_ok_iff.mp hmodule
  obtain rfl := Except.ok.inj ((readText_oneType h).symm.trans htext)
  have htypes := typeNames_oneType
  rw [hbody, Option.map_some, Option.some_inj] at htypes
  exact htypes

theorem typeNames_of_oneType (h : w.stat path = .ok (.file oneType.toUTF8 modified))
    (hmodule : freshModule w path root = .ok module) :
    module.typeNames = [module.name ++ "." ++ "A"] := by
  show module.types.map ((module.name ++ "." ++ ·) ∘ (·.1)) = _
  rw [← List.map_map, types_of_oneType h hmodule, List.map_singleton]

end

theorem recalled?_nil (w : Workspace) (path : Path) : Cache.recalled? [] w path = none := by
  unfold Cache.recalled?
  cases w.stat path <;> rfl

theorem recalled?_after_readModule {w : Workspace} {path root : Path} {module : Module}
    (h : freshModule w path root = .ok module) :
    (after (readModule w path root).run []).recalled? w path = some module := by
  rcases (readModule_run w path root []).2
    with ⟨hfails, -⟩ | ⟨node, module', hnode, hmodule, hafter⟩
  · exact absurd h (hfails (recalled?_nil w path) module)
  · obtain rfl := Except.ok.inj (h.symm.trans hmodule)
    rw [hafter]
    simp [Cache.recalled?, Cache.module?, Cache.remember, hnode]

/-- The types of a file are answered from what is remembered of it, whatever its name is counted
from. -/
theorem reply_declaredTypes (w : Workspace) (roots : List Path) (path root : Path) (cache : Cache) :
    answer (reply w roots (.declaredTypes path root)) cache =
        .names (Module.typeNames <$> (cache.recalled? w path).elim (freshModule w path root) .ok) ∧
      after (reply w roots (.declaredTypes path root)) cache =
        after (readModule w path root).run cache := by
  have hmap : (Module.typeNames <$> readModule w path root).run =
      (Module.typeNames <$> ·) <$> (readModule w path root).run := ExceptT.run_map ..
  have hreply : reply w roots (.declaredTypes path root) =
      .names <$> (Module.typeNames <$> ·) <$> (readModule w path root).run := by
    rw [← hmap]
    rfl
  rw [hreply, Loading.answer_map, Loading.answer_map, Loading.after_map, Loading.after_map,
    (readModule_run w path root cache).1]
  exact ⟨rfl, rfl⟩

/-- Of two questions for the types of one file the second is answered as if the name was counted
from where the first one counts it. -/
theorem session_declaredTypes {w : Workspace} {path root : Path} {module : Module}
    (h : freshModule w path root = .ok module) (root' : Path) :
    session roots [⟨w, .declaredTypes path root⟩, ⟨w, .declaredTypes path root'⟩] [] =
      [.names (.ok module.typeNames), .names (.ok module.typeNames)] := by
  simp only [session, reply_declaredTypes, recalled?_nil, recalled?_after_readModule h, h,
    Option.elim]
  rfl

/-- If every session is answered like anew whose questions only touch some files, then none of these
files has two names. -/
theorem oneName_of_session
    (h : ∀ history, StampsTell (Known history) →
      (∀ o ∈ history, ∀ path root, Touches roots o path root → places path root) →
      session roots history [] = history.map (·.freshReply roots)) : OneName places := by
  rintro path root root' name hplace hplace' ⟨w, content, modified, hfile⟩ hname
  -- with the same contents in all files, a file's size and time tell its contents whatever they are
  let filled := w.refill oneType.toUTF8 modified
  have hstat : filled.stat path = .ok (.file oneType.toUTF8 modified) :=
    Workspace.stat_refill oneType.toUTF8 modified hfile
  let history : List Occasion :=
    [⟨filled, .declaredTypes path root⟩, ⟨filled, .declaredTypes path root'⟩]
  have hfilled : ∀ w', Known history w' → w' = filled := by
    rintro w' ⟨o, ho, rfl⟩
    simp only [history, List.mem_cons, List.not_mem_nil, or_false] at ho
    rcases ho with rfl | rfl <;> rfl
  have htouches : ∀ o ∈ history, ∀ path root, Touches roots o path root → places path root := by
    simp only [history, List.forall_mem_cons]
    refine ⟨fun _ _ h => ?_, fun _ _ h => ?_, by simp⟩
    · obtain ⟨rfl, rfl⟩ := touches_declaredTypes h
      exact hplace
    · obtain ⟨rfl, rfl⟩ := touches_declaredTypes h
      exact hplace'
  obtain ⟨module, hmodule⟩ := exists_freshModule_oneType hstat hname
  have hsame := h history (stampsTell_of_eq hfilled) htouches
  rw [session_declaredTypes hmodule] at hsame
  simp only [history, List.map_cons, List.map_nil, Occasion.freshReply, reply_declaredTypes,
    recalled?_nil, Option.elim, List.cons.injEq, Reply.names.injEq, and_true] at hsame
  cases hread : freshModule filled path root' with
  | error e => simp [hread] at hsame
  | ok module' =>
    have htypes : [module.name ++ "." ++ "A"] = [module'.name ++ "." ++ "A"] := by
      rw [← typeNames_of_oneType hstat hmodule, ← typeNames_of_oneType hstat hread]
      exact Except.ok.inj (hread ▸ hsame.2)
    have hnames : module.name = module'.name :=
      (String.append_left_inj _).mp ((String.append_left_inj _).mp (List.cons.inj htypes).1)
    rw [moduleName_of_freshModule hread, ← hnames, ← moduleName_of_freshModule hmodule, hname]

/-- A loader that lives long answers like one made anew, whichever questions came before and however
files have changed, exactly if none of the files that the questions touch has two names. That size
and time tell the contents of a file is asked of all states of the files in which there is a
question, and not only of one and the next: what is remembered may be older than the last change. -/
theorem session_fresh_iff_oneName (roots : List Path) (places : (path root : Path) → Prop) :
    (∀ history, StampsTell (Known history) →
        (∀ o ∈ history, ∀ path root, Touches roots o path root → places path root) →
        session roots history [] = history.map (·.freshReply roots)) ↔
      OneName places := by
  constructor
  · exact oneName_of_session
  · intro hname history htell htouches
    exact session_of_faithful htell hname (fun o ho => ⟨o, ho, rfl⟩) htouches faithful_nil

end RetentionPlan.Source
