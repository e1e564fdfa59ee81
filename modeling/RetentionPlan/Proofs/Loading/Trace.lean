import RetentionPlan.Proofs.Loading.Correspondence

/-!
# The questions of a run

A loader can be made to keep a log of the questions it is asked and of the faults it meets. The log
changes no answer. A computation tracks its questions if it comes to a good end exactly when none of
them met a fault; here this is shown of the walks over supertypes.
-/
namespace RetentionPlan.Loading

inductive Question where
  | resolve (name : String)
  | declaredTypes (path root : Path)

/-- A question that was asked, and the fault that it met, if any. -/
structure Asked where
  question : Question
  fault : Option Fault

def faultOf {α : Type} : Except LoadError α → Option Fault
  | .error (.fault e) => some e
  | _ => none

/-- Did no question meet a fault? -/
def Clean (log : List Asked) : Prop := ∀ asked ∈ log, asked.fault = none

theorem clean_nil : Clean [] := by simp [Clean]

theorem clean_append {log more : List Asked} : Clean (log ++ more) ↔ Clean log ∧ Clean more :=
  List.forall_mem_append

/-- A state beside which a log is kept. -/
abbrev Logged (σ : Type) := σ × List Asked

section
variable {σ α β : Type}

def ask (question : Question) (x : StateM σ (Except LoadError α)) :
    StateM (Logged σ) (Except LoadError α) :=
  fun (s, log) => (answer x s, after x s, log ++ [⟨question, faultOf (answer x s)⟩])

def Loader.traced (loader : Loader (StateM σ)) : Loader (StateM (Logged σ)) where
  resolve name := ask (.resolve name) (loader.resolve name)
  declaredTypes path root := ask (.declaredTypes path root) (loader.declaredTypes path root)
  supertypeCount := fun (s, log) =>
    (answer loader.supertypeCount s, after loader.supertypeCount s, log)

/-- Is an entry of a log a question that the loader answered so in some state? Only some files are
ever asked for their types. -/
inductive Genuine (loader : Loader (StateM σ)) (asked : (path root : Path) → Prop) : Asked → Prop
  | resolve (name : String) (s : σ) :
      Genuine loader asked ⟨.resolve name, faultOf (answer (loader.resolve name) s)⟩
  | declaredTypes {path root : Path} (h : asked path root) (s : σ) :
      Genuine loader asked
        ⟨.declaredTypes path root, faultOf (answer (loader.declaredTypes path root) s)⟩

/-- Computations that only differ in that one of them keeps a log of genuine entries. -/
def logging (loader : Loader (StateM σ)) (asked : (path root : Path) → Prop) :
    Correspondence (StateM (Logged σ)) (StateM σ) where
  Rel x y := ∀ s log, answer x (s, log) = answer y s ∧ (after x (s, log)).1 = after y s ∧
    ∃ more, (after x (s, log)).2 = log ++ more ∧ ∀ entry ∈ more, Genuine loader asked entry
  pure _ _ log := ⟨rfl, rfl, [], (List.append_nil log).symm, by simp⟩
  bind {_ _ x y f g} hx hf s log := by
    obtain ⟨hanswer, hafter, first, hfirst, hgenuine⟩ := hx s log
    obtain ⟨hanswer', hafter', second, hsecond, hgenuine'⟩ :=
      hf (answer y s) (after y s) (after x (s, log)).2
    rw [answer_bind, after_bind, answer_bind, after_bind, hanswer]
    rw [← hafter] at hanswer' hafter' hsecond ⊢
    refine ⟨hanswer', hafter', first ++ second, ?_, ?_⟩
    · rw [← List.append_assoc, ← hfirst]
      exact hsecond
    · exact List.forall_mem_append.mpr ⟨hgenuine, hgenuine'⟩

/-- The questions of a computation that starts with an empty log. -/
def questions (x : StateM (Logged σ) α) (s : σ) : List Asked := (after x (s, [])).2

theorem genuine_questions {loader : Loader (StateM σ)} {asked : (path root : Path) → Prop}
    {x : StateM (Logged σ) α} {y : StateM σ α} (h : (logging loader asked).Rel x y) (s : σ) :
    ∀ entry ∈ questions x s, Genuine loader asked entry := by
  obtain ⟨-, -, more, hmore, hgenuine⟩ := h s []
  rw [questions, hmore]
  exact hgenuine

theorem Loader.traced_corresponds (loader : Loader (StateM σ))
    (asked : (path root : Path) → Prop) :
    loader.traced.Corresponds (logging loader asked) asked loader where
  resolve name s _ := ⟨rfl, rfl, _, rfl, List.forall_mem_singleton.mpr (.resolve name s)⟩
  declaredTypes h s _ := ⟨rfl, rfl, _, rfl, List.forall_mem_singleton.mpr (.declaredTypes h s)⟩
  supertypeCount _ log := ⟨rfl, rfl, [], (List.append_nil log).symm, by simp⟩

/-- Does a computation come to a good end exactly when none of its questions meets a fault? -/
def Tracks (good : α → Prop) (x : StateM (Logged σ) α) : Prop :=
  ∀ s, Clean (after x s).2 ↔ Clean s.2 ∧ good (answer x s)

/-- Does a computation come to a bad end, whatever it still asks? -/
def Fails (good : α → Prop) (x : StateM (Logged σ) α) : Prop :=
  ∀ s, ¬ good (answer x s) ∧ s.2 <+: (after x s).2

theorem Clean.of_prefix {log more : List Asked} (h : Clean more) (hlog : log <+: more) :
    Clean log :=
  fun asked hasked => h asked (hlog.subset hasked)

theorem Fails.pure {good : α → Prop} {a : α} (h : ¬ good a) :
    Fails good (pure a : StateM (Logged σ) α) :=
  fun s => ⟨h, s.2.prefix_refl⟩

/-- What comes before a bad end does not mend it. -/
theorem Fails.of_logging {loader : Loader (StateM σ)} {asked : (path root : Path) → Prop}
    {post : α → Prop} {good : β → Prop} {x : StateM (Logged σ) α} {y : StateM σ α}
    {f : α → StateM (Logged σ) β} (hx : (logging loader asked).Rel x y) (hpost : Ensures post x)
    (hf : ∀ a, post a → Fails good (f a)) : Fails good (x >>= f) := by
  intro s
  obtain ⟨-, -, more, hmore, -⟩ := hx s.1 s.2
  obtain ⟨hbad, hlog⟩ := hf (answer x s) (hpost s) (after x s)
  refine ⟨hbad, List.IsPrefix.trans ?_ hlog⟩
  exact hmore ▸ s.2.prefix_append more

theorem Fails.bind {good : α → Prop} {good' : β → Prop} {x : StateM (Logged σ) α}
    {f : α → StateM (Logged σ) β} (hx : Fails good x) (hf : ∀ a, ¬ good a → Fails good' (f a)) :
    Fails good' (x >>= f) := by
  intro s
  obtain ⟨hend, hlog⟩ := hx s
  obtain ⟨hbad, hmore⟩ := hf _ hend (after x s)
  exact ⟨hbad, hlog.trans hmore⟩

theorem Tracks.pure {good : α → Prop} {a : α} (h : good a) :
    Tracks good (pure a : StateM (Logged σ) α) :=
  fun _ => (and_iff_left h).symm

theorem Tracks.bind {good : α → Prop} {good' : β → Prop} {x : StateM (Logged σ) α}
    {f : α → StateM (Logged σ) β} (hx : Tracks good x)
    (hgood : ∀ s, good (answer x s) → Tracks good' (f (answer x s)))
    (hbad : ∀ s, ¬ good (answer x s) → Fails good' (f (answer x s))) : Tracks good' (x >>= f) := by
  intro s
  rw [answer_bind, after_bind]
  have hfirst := hx s
  by_cases h : good (answer x s)
  · rw [hgood s h (after x s), hfirst, and_iff_left h]
  · obtain ⟨hend, hlog⟩ := hbad s h (after x s)
    constructor
    · intro hclean
      exact absurd (hfirst.mp (hclean.of_prefix hlog)).2 h
    · exact fun hgood => absurd hgood.2 hend

theorem Tracks.bind_except {good : β → Prop} {x : StateM (Logged σ) (Except Fault α)}
    {f : Except Fault α → StateM (Logged σ) β} (hx : Tracks (·.isOk) x)
    (hok : ∀ a, Tracks good (f (.ok a))) (herror : ∀ e, Fails good (f (.error e))) :
    Tracks good (x >>= f) := by
  refine hx.bind (fun s h => ?_) fun s h => ?_
  · rcases hanswer : answer x s with e | a
    · simp [hanswer, Except.isOk, Except.toBool] at h
    · exact hok a
  · rcases hanswer : answer x s with e | a
    · exact herror e
    · exact absurd (by rw [hanswer]; rfl) h

/-- The same where the answer comes with something else. -/
theorem Tracks.bind_except_fst {γ : Type} {post : Except Fault α × β → Prop} {good : γ → Prop}
    {x : StateM (Logged σ) (Except Fault α × β)} {f : Except Fault α × β → StateM (Logged σ) γ}
    (hx : Tracks (·.1.isOk) x) (hpost : Ensures post x)
    (hok : ∀ a b, post (.ok a, b) → Tracks good (f (.ok a, b)))
    (herror : ∀ e b, Fails good (f (.error e, b))) : Tracks good (x >>= f) := by
  refine hx.bind (fun s h => ?_) fun s h => ?_
  · have hb := hpost s
    rcases hanswer : answer x s with ⟨e | a, b⟩
    · simp [hanswer, Except.isOk, Except.toBool] at h
    · rw [hanswer] at hb
      exact hok a b hb
  · rcases hanswer : answer x s with ⟨e | a, b⟩
    · exact herror e b
    · exact absurd (by rw [hanswer]; rfl) h

theorem tracks_ask (question : Question) (x : StateM σ (Except LoadError α)) :
    Tracks (fun r => faultOf r = none) (ask question x) := by
  intro s
  show Clean (s.2 ++ [_]) ↔ Clean s.2 ∧ faultOf (answer x s.1) = none
  rw [clean_append]
  exact and_congr_right fun _ => List.forall_mem_singleton

end

namespace Loader
variable {σ : Type} (loader : Loader (StateM σ))

theorem tracks_find? (name : String) : Tracks (·.isOk) (loader.traced.find? name) := by
  refine (tracks_ask (.resolve name) (loader.resolve name)).bind (fun s h => ?_) fun s h => ?_
  · generalize answer (ask (.resolve name) (loader.resolve name)) s = r at h
    rcases r with (why | fault) | d
    · exact .pure rfl
    · cases h
    · exact .pure rfl
  · generalize answer (ask (.resolve name) (loader.resolve name)) s = r at h
    rcases r with (why | fault) | d
    · exact absurd rfl h
    · exact .pure Bool.false_ne_true
    · exact absurd rfl h

theorem Tracks.bind_supertypeCount {α : Type} {good : α → Prop} {f : Nat → StateM (Logged σ) α}
    (hf : ∀ count, Tracks good (f count)) : Tracks good (loader.traced.supertypeCount >>= f) :=
  fun s => hf _ (after loader.traced.supertypeCount s)

theorem tracks_reaches (target : String) (steps : Nat) (seen pending : List String) :
    Tracks (·.isOk) (loader.traced.reaches target steps seen pending) := by
  induction steps generalizing seen pending with
  | zero => exact .pure rfl
  | succ steps ih =>
    cases pending with
    | nil => exact .pure rfl
    | cons name pending =>
      simp only [reaches]
      split
      · exact .pure rfl
      · split
        · exact ih _ _
        · refine (loader.tracks_find? name).bind_except ?_ fun e => .pure Bool.false_ne_true
          rintro (_ | parent)
          · exact ih _ _
          · dsimp only
            split
            · exact .pure rfl
            · exact ih _ _

theorem tracks_isAssignable (d : TypeDescriptor) (target : String) :
    Tracks (·.isOk) (loader.traced.isAssignable d target) := by
  simp only [isAssignable]
  split
  · exact .pure rfl
  · exact Tracks.bind_supertypeCount loader fun count => loader.tracks_reaches target _ _ _

theorem tracks_ancestorsFrom (steps : Nat) (seen queue : List String) :
    Tracks (·.fault = none) (loader.traced.ancestorsFrom steps seen queue) := by
  induction steps generalizing seen queue with
  | zero => exact .pure rfl
  | succ steps ih =>
    cases queue with
    | nil => exact .pure rfl
    | cons name queue =>
      simp only [ancestorsFrom]
      split
      · exact ih _ _
      · refine (loader.tracks_find? name).bind_except ?_ fun e => .pure (Option.some_ne_none e)
        rintro (_ | parent)
        · exact ih _ _
        · dsimp only
          split
          · exact ih _ _
          · exact (ih _ _).bind (fun _ h => .pure h) fun _ h => .pure h

theorem tracks_ancestors (d : TypeDescriptor) :
    Tracks (·.fault = none) (loader.traced.ancestors d) :=
  Tracks.bind_supertypeCount loader fun _ => loader.tracks_ancestorsFrom _ _ _

end Loader
end RetentionPlan.Loading
