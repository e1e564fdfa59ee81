import Mathlib.Data.Set.Finite.Basic
import Mathlib.Logic.Relation
import RetentionPlan.Proofs.Loading.Spelling
import RetentionPlan.Types.Graph

/-!
# The closure of the supertypes

Two walks go up from a type, one in depth and one in breadth, and both cut cycles by remembering
names, second names and own names alike. Neither loses anything by that: if there are only finitely
many types, both end, the walk in breadth finds just the types above, and a type is assignable to
just the names that are written down or carried there.
-/
namespace RetentionPlan.Loading.Loader

/-- Is the type `parent` found under a name in the list of supertypes of `d`? -/
def Parent (loader : Loader Id) (d parent : TypeDescriptor) : Prop :=
  ∃ name ∈ d.supertypes, (loader.resolve name).run = .ok parent

/-- A search for `target` among the names in `pending` and above them comes to its end, however many
turns that takes, and tells whether it has met the target. -/
inductive Searches (loader : Loader Id) (target : String) :
    (seen pending : List String) → Bool → Prop
  | exhausted {seen : List String} : Searches loader target seen [] false
  | met {seen pending : List String} : Searches loader target seen (target :: pending) true
  | known {seen pending : List String} {name : String} {found : Bool} : name ≠ target →
      name ∈ seen → Searches loader target seen pending found →
      Searches loader target seen (name :: pending) found
  | unresolved {seen pending : List String} {name : String} {why : Unresolved} {found : Bool} :
      name ≠ target → name ∉ seen → (loader.resolve name).run = .error (.unresolved why) →
      Searches loader target (name :: seen) pending found →
      Searches loader target seen (name :: pending) found
  | metParent {seen pending : List String} {name : String} {parent : TypeDescriptor} :
      name ≠ target → name ∉ seen → (loader.resolve name).run = .ok parent → parent.name = target →
      Searches loader target seen (name :: pending) true
  | parent {seen pending : List String} {name : String} {parent : TypeDescriptor} {found : Bool} :
      name ≠ target → name ∉ seen → (loader.resolve name).run = .ok parent → parent.name ≠ target →
      Searches loader target (parent.name :: name :: seen) (parent.supertypes.reverse ++ pending)
        found → Searches loader target seen (name :: pending) found

/-- A walk over the names in `queue` and above them comes to its end, however many turns that takes,
and has found some types. -/
inductive Gathers (loader : Loader Id) : (seen queue : List String) → List TypeDescriptor → Prop
  | exhausted {seen : List String} : Gathers loader seen [] []
  | known {seen queue : List String} {name : String} {ds : List TypeDescriptor} : name ∈ seen →
      Gathers loader seen queue ds → Gathers loader seen (name :: queue) ds
  | unresolved {seen queue : List String} {name : String} {why : Unresolved}
      {ds : List TypeDescriptor} :
      name ∉ seen → (loader.resolve name).run = .error (.unresolved why) →
      Gathers loader (name :: seen) queue ds → Gathers loader seen (name :: queue) ds
  | foundBefore {seen queue : List String} {name : String} {parent : TypeDescriptor}
      {ds : List TypeDescriptor} : name ∉ seen → (loader.resolve name).run = .ok parent →
      parent.name ∈ seen → Gathers loader (name :: seen) queue ds →
      Gathers loader seen (name :: queue) ds
  | found {seen queue : List String} {name : String} {parent : TypeDescriptor}
      {ds : List TypeDescriptor} :
      name ∉ seen → (loader.resolve name).run = .ok parent → parent.name ∉ seen →
      Gathers loader (parent.name :: name :: seen) (queue ++ parent.supertypes) ds →
      Gathers loader seen (name :: queue) (parent :: ds)

variable {loader : Loader Id} {d : TypeDescriptor} {target : String}
  {seen pending queue : List String}

section
variable {name : String}

theorem find?_of_unresolved {why : Unresolved}
    (h : (loader.resolve name).run = .error (.unresolved why)) :
    (loader.find? name).run = .ok none := by
  simp [Loader.find?, h]

theorem find?_of_ok {parent : TypeDescriptor} (h : (loader.resolve name).run = .ok parent) :
    (loader.find? name).run = .ok (some parent) := by
  simp [Loader.find?, h]

theorem resolve_cases (hfault : ∀ name e, (loader.resolve name).run ≠ .error (.fault e))
    (name : String) :
    (∃ why, (loader.resolve name).run = .error (.unresolved why)) ∨
      ∃ parent, (loader.resolve name).run = .ok parent := by
  rcases h : (loader.resolve name).run with (why | fault) | parent
  · exact .inl ⟨why, rfl⟩
  · exact absurd h (hfault name fault)
  · exact .inr ⟨parent, rfl⟩

theorem WellBehaved.resolve_cases (hloader : loader.WellBehaved) (name : String) :
    (∃ why, (loader.resolve name).run = .error (.unresolved why)) ∨
      ∃ parent, (loader.resolve name).run = .ok parent :=
  Loader.resolve_cases hloader.not_fault name

end

section
variable {names : List String} {steps : Nat}

/-- With a step for each name that can still come up, the search in depth ends. -/
theorem exists_searches (hloader : loader.WellBehaved)
    (hlisted : ∀ {name d next}, (loader.resolve name).run = .ok d → next ∈ d.supertypes →
      next ∈ names)
    (hpending : pending ⊆ names)
    (hsteps : pending.length + loader.widthOutside names seen < steps) :
    ∃ found, (loader.reaches target steps seen pending).run = .ok found ∧
      loader.Searches target seen pending found := by
  -- Each step takes a name off the stack. What a type puts on it is paid for by the width that the
  -- type no longer adds once it has been seen.
  induction steps generalizing seen pending with
  | zero => omega
  | succ steps ih =>
    cases pending with
    | nil => exact ⟨false, rfl, .exhausted⟩
    | cons name pending =>
      rw [List.cons_subset] at hpending
      simp only [List.length_cons] at hsteps
      simp only [reaches]
      by_cases htarget : name = target
      · subst htarget
        exact ⟨true, by simp, .met⟩
      rw [if_neg htarget]
      have hrest : pending.length + loader.widthOutside names seen < steps := by omega
      by_cases hseen : name ∈ seen
      · obtain ⟨found, hrun, hsearch⟩ := ih hpending.2 hrest
        exact ⟨found, by simpa [hseen] using hrun, .known htarget hseen hsearch⟩
      rw [if_neg hseen]
      rcases hloader.resolve_cases name with ⟨why, hname⟩ | ⟨parent, hname⟩
      · have houtside : loader.widthOutside names (name :: seen) ≤ loader.widthOutside names seen :=
          widthOutside_le_of_subset (List.subset_cons_self name seen) names
        obtain ⟨found, hrun, hsearch⟩ :=
          ih hpending.2 (Nat.lt_of_le_of_lt (Nat.add_le_add_left houtside _) hrest)
        refine ⟨found, ?_, .unresolved htarget hseen hname hsearch⟩
        simpa only [Id.run_bind, find?_of_unresolved hname] using hrun
      · by_cases hparent : parent.name = target
        · refine ⟨true, ?_, .metParent htarget hseen hname hparent⟩
          simp [find?_of_ok hname, hparent]
        · have hwidth : loader.width name = parent.supertypes.length := by simp [width, hname]
          have hbelow : loader.width name +
              loader.widthOutside names (parent.name :: name :: seen) ≤
                loader.widthOutside names seen :=
            width_add_widthOutside_le hpending.1 hseen (List.subset_cons_self _ _)
          have hsup : parent.supertypes.reverse ++ pending ⊆ names := by
            simp only [List.append_subset, List.reverse_subset]
            exact ⟨fun next hnext => hlisted hname hnext, hpending.2⟩
          have hmore : (parent.supertypes.reverse ++ pending).length +
              loader.widthOutside names (parent.name :: name :: seen) < steps := by
            simp only [List.length_append, List.length_reverse]
            omega
          obtain ⟨found, hrun, hsearch⟩ := ih hsup hmore
          refine ⟨found, ?_, .parent htarget hseen hname hparent hsearch⟩
          simpa only [Id.run_bind, find?_of_ok hname, if_neg hparent] using hrun

/-- The walk in breadth ends if it has a step for each name in its queue and for each that can still
come up. How many can come up is counted by `left`, which takes off the supertypes of a type as soon
as the type's name is seen. -/
theorem exists_gathers_of_left (allowed : String → Prop) (left : List String → Nat)
    (hfault : ∀ name e, (loader.resolve name).run ≠ .error (.fault e))
    (hlisted : ∀ {name d next}, (loader.resolve name).run = .ok d → next ∈ d.supertypes →
      allowed next)
    (hseen : ∀ name seen, left (name :: seen) ≤ left seen)
    (hparent : ∀ {name parent seen}, allowed name → name ∉ seen →
      (loader.resolve name).run = .ok parent →
      parent.name ∉ seen →
        parent.supertypes.length + left (parent.name :: name :: seen) ≤ left seen)
    (hqueue : ∀ name ∈ queue, allowed name) (hsteps : queue.length + left seen < steps) :
    ∃ ds, (loader.ancestorsFrom steps seen queue).run = ⟨ds, none⟩ ∧
      loader.Gathers seen queue ds := by
  induction steps generalizing seen queue with
  | zero => omega
  | succ steps ih =>
    cases queue with
    | nil => exact ⟨[], rfl, .exhausted⟩
    | cons name queue =>
      rw [List.forall_mem_cons] at hqueue
      simp only [List.length_cons] at hsteps
      simp only [ancestorsFrom]
      have hrest : queue.length + left seen < steps := by omega
      by_cases hknown : name ∈ seen
      · obtain ⟨ds, hrun, hgather⟩ := ih hqueue.2 hrest
        exact ⟨ds, by simpa [hknown] using hrun, .known hknown hgather⟩
      rw [if_neg hknown]
      have hfewer : queue.length + left (name :: seen) < steps :=
        Nat.lt_of_le_of_lt (Nat.add_le_add_left (hseen name seen) _) hrest
      rcases resolve_cases hfault name with ⟨why, hname⟩ | ⟨parent, hname⟩
      · obtain ⟨ds, hrun, hgather⟩ := ih hqueue.2 hfewer
        refine ⟨ds, ?_, .unresolved hknown hname hgather⟩
        simpa only [Id.run_bind, find?_of_unresolved hname] using hrun
      · by_cases hbefore : parent.name ≠ name ∧ parent.name ∈ seen
        · obtain ⟨ds, hrun, hgather⟩ := ih hqueue.2 hfewer
          refine ⟨ds, ?_, .foundBefore hknown hname hbefore.2 hgather⟩
          simpa only [Id.run_bind, find?_of_ok hname, if_pos hbefore] using hrun
        · have hnew : parent.name ∉ seen := fun hmem => by
            have hown : parent.name = name := by simpa [hmem] using hbefore
            exact hknown (hown ▸ hmem)
          have hbelow := hparent hqueue.1 hknown hname hnew
          have hall : ∀ next ∈ queue ++ parent.supertypes, allowed next := by
            rw [List.forall_mem_append]
            exact ⟨hqueue.2, fun next hnext => hlisted hname hnext⟩
          have hmore :
              (queue ++ parent.supertypes).length + left (parent.name :: name :: seen) < steps := by
            rw [List.length_append]
            omega
          obtain ⟨ds, hrun, hgather⟩ := ih hall hmore
          refine ⟨parent :: ds, ?_, .found hknown hname hnew hgather⟩
          simp only [Id.run_bind, find?_of_ok hname, if_neg hbefore, hrun]
          rfl

/-- With a step for each name that can still come up, the walk in breadth ends. -/
theorem exists_gathers (hloader : loader.WellBehaved)
    (hlisted : ∀ {name d next}, (loader.resolve name).run = .ok d → next ∈ d.supertypes →
      next ∈ names)
    (hqueue : queue ⊆ names) (hsteps : queue.length + loader.widthOutside names seen < steps) :
    ∃ ds, (loader.ancestorsFrom steps seen queue).run = ⟨ds, none⟩ ∧
      loader.Gathers seen queue ds := by
  refine exists_gathers_of_left (· ∈ names) (loader.widthOutside names) hloader.not_fault hlisted
    (fun name seen => widthOutside_le_of_subset (List.subset_cons_self name seen) names)
    (fun {name parent seen} hmem hnew hname _ => ?_) (fun _ hname => hqueue hname) hsteps
  have hwidth : loader.width name = parent.supertypes.length := by simp [width, hname]
  rw [← hwidth]
  exact width_add_widthOutside_le hmem hnew (List.subset_cons_self _ _)

end

theorem WellBehaved.enough_steps (hloader : loader.WellBehaved)
    (hd : (loader.resolve d.name).run = .ok d) :
    ∃ names : List String,
      (∀ {name d next}, (loader.resolve name).run = .ok d → next ∈ d.supertypes → next ∈ names) ∧
      d.supertypes ⊆ names ∧ d.supertypes.length + loader.widthOutside names [d.name] <
        d.supertypes.length + loader.supertypeCount.run + 1 := by
  obtain ⟨names, hlisted, hwidth⟩ := hloader.finite
  refine ⟨names, hlisted, fun next hnext => hlisted hd hnext, ?_⟩
  have hseen : loader.widthOutside names [d.name] ≤ loader.widthOutside names [] :=
    widthOutside_le_of_subset (List.nil_subset _) names
  have hall : loader.widthOutside names [] = (names.map loader.width).sum := by simp [widthOutside]
  omega

theorem WellBehaved.eq_of_name (hloader : loader.WellBehaved) {a b : TypeDescriptor}
    {name other : String}
    (ha : (loader.resolve name).run = .ok a) (hb : (loader.resolve other).run = .ok b)
    (h : b.name = name) : b = a := by
  have hown := hloader.resolve_name hb
  rw [h, ha] at hown
  exact (Except.ok.inj hown).symm

/-- A second name of a type that is known already has nothing new behind it. -/
theorem Closed.cons_of_known (hloader : loader.WellBehaved) {name : String}
    {parent : TypeDescriptor}
    (h : loader.Closed seen (name :: pending)) (hname : (loader.resolve name).run = .ok parent)
    (hparent : parent.name ∈ seen) : loader.Closed (name :: seen) pending := by
  have hupper {next : String} (hnext : next ∈ seen ∨ next ∈ name :: pending) :
      next ∈ name :: seen ∨ next ∈ pending := by
    simp only [List.mem_cons] at hnext ⊢
    tauto
  intro other hother a ha
  rcases List.mem_cons.mp hother with rfl | hother
  · obtain rfl : a = parent := Except.ok.inj (ha.symm.trans hname)
    obtain ⟨-, hnext⟩ := h _ hparent _ (hloader.resolve_name ha)
    exact ⟨List.mem_cons_of_mem _ hparent, fun next hmem => hupper (hnext next hmem)⟩
  · obtain ⟨hown, hnext⟩ := h other hother a ha
    exact ⟨List.mem_cons_of_mem _ hown, fun next hmem => hupper (hnext next hmem)⟩

/-- A closed set of names holds the name of every type above one whose name it holds, and all that
is written down there. -/
theorem Closed.above {names : List String} (h : loader.Closed names []) {a b : TypeDescriptor}
    (ha : (loader.resolve a.name).run = .ok a) (hname : a.name ∈ names)
    (hup : Relation.ReflTransGen loader.Parent a b) :
    b.name ∈ names ∧ ∀ next ∈ b.supertypes, next ∈ names := by
  induction hup with
  | refl => simpa using h _ hname _ ha
  | tail _ hparent ih =>
    obtain ⟨next, hnext, hb⟩ := hparent
    simpa using h next (ih.2 next hnext) _ hb

namespace Searches

theorem exists_closed (hloader : loader.WellBehaved) {found : Bool}
    (h : loader.Searches target seen pending found) (hfound : found = false)
    (htarget : target ∉ seen) (hclosed : loader.Closed seen pending) :
    ∃ names, seen ⊆ names ∧ pending ⊆ names ∧ loader.Closed names [] ∧ target ∉ names := by
  induction h with
  | @exhausted seen => exact ⟨seen, List.Subset.refl _, List.nil_subset _, hclosed, htarget⟩
  | met => cases hfound
  | known _ hseen _ ih =>
    obtain ⟨names, hold, hpending, hall, hnot⟩ := ih hfound htarget (hclosed.tail_of_mem hseen)
    exact ⟨names, hold, List.cons_subset.mpr ⟨hold hseen, hpending⟩, hall, hnot⟩
  | unresolved hne _ hname _ ih =>
    obtain ⟨names, hold, hpending, hall, hnot⟩ :=
      ih hfound (by simp [Ne.symm hne, htarget]) (hclosed.cons_of_error hname)
    rw [List.cons_subset] at hold
    exact ⟨names, hold.2, List.cons_subset.mpr ⟨hold.1, hpending⟩, hall, hnot⟩
  | metParent => cases hfound
  | parent hne _ hname hparent _ ih =>
    obtain ⟨names, hold, hpending, hall, hnot⟩ :=
      ih hfound (by simp [Ne.symm hne, Ne.symm hparent, htarget]) (hclosed.cons_of_ok hloader hname)
    simp only [List.cons_subset, List.append_subset] at hold hpending
    exact ⟨names, hold.2.2, List.cons_subset.mpr ⟨hold.2.1, hpending.2⟩, hall, hnot⟩

/-- A target that is met stands in the list of names or is carried or written down above it. -/
theorem sound {found : Bool} (h : loader.Searches target seen pending found)
    (hfound : found = true) :
    target ∈ pending ∨ ∃ name ∈ pending, ∃ parent a, (loader.resolve name).run = .ok parent ∧
      Relation.ReflTransGen loader.Parent parent a ∧ (target = a.name ∨ target ∈ a.supertypes) := by
  have later {name : String} {pending : List String}
      (h : target ∈ pending ∨ ∃ next ∈ pending, ∃ parent a, (loader.resolve next).run = .ok parent ∧
        Relation.ReflTransGen loader.Parent parent a ∧ (target = a.name ∨ target ∈ a.supertypes)) :
      target ∈ name :: pending ∨ ∃ next ∈ name :: pending, ∃ parent a,
        (loader.resolve next).run = .ok parent ∧ Relation.ReflTransGen loader.Parent parent a ∧
          (target = a.name ∨ target ∈ a.supertypes) := by
    refine h.imp (List.mem_cons_of_mem _) ?_
    rintro ⟨next, hnext, hup⟩
    exact ⟨next, List.mem_cons_of_mem _ hnext, hup⟩
  induction h with
  | exhausted => cases hfound
  | met => exact .inl List.mem_cons_self
  | known _ _ _ ih => exact later (ih hfound)
  | unresolved _ _ _ _ ih => exact later (ih hfound)
  | @metParent seen pending name parent _ _ hname hparent =>
    exact .inr ⟨name, List.mem_cons_self, parent, parent, hname, .refl, .inl hparent.symm⟩
  | @parent seen pending name parent found _ _ hname _ _ ih =>
    rcases ih hfound with hmem | ⟨next, hnext, above, a, habove, hup, hspelled⟩
    · rcases List.mem_append.mp hmem with hlisted | hold
      · exact .inr ⟨name, List.mem_cons_self, parent, parent, hname, .refl,
          .inr (List.mem_reverse.mp hlisted)⟩
      · exact later (.inl hold)
    · rcases List.mem_append.mp hnext with hlisted | hold
      · exact .inr ⟨name, List.mem_cons_self, parent, a, hname,
          hup.head ⟨next, List.mem_reverse.mp hlisted, habove⟩, hspelled⟩
      · exact later (.inr ⟨next, hold, above, a, habove, hup, hspelled⟩)

/-- A search for a type's name that has another name of the type ahead of it meets the type, unless
that other name is known as the own name of something else. -/
theorem found_of_pending {name : String} {p : TypeDescriptor} {found : Bool}
    (hname : (loader.resolve name).run = .ok p)
    (hown : ∀ other a, (loader.resolve other).run = .ok a → a.name = name → p.name = name)
    (h : loader.Searches p.name seen pending found) (hpending : name ∈ pending)
    (hseen : name ∈ seen → p.name = name) : found = true := by
  -- The target has to be a variable, as it is an index of the search.
  generalize htarget : p.name = target at h hseen hown
  induction h with
  | exhausted => cases hpending
  | met => rfl
  | @known seen pending other found hne hknown _ ih =>
    refine ih ((List.mem_cons.mp hpending).resolve_left ?_) hseen
    rintro rfl
    exact hne (hseen hknown).symm
  | @unresolved seen pending other why found _ _ hother _ ih =>
    have hdiffers : name ≠ other := fun heq => by
      rw [← heq, hname] at hother
      cases hother
    refine ih ((List.mem_cons.mp hpending).resolve_left hdiffers) fun hmem => ?_
    exact hseen ((List.mem_cons.mp hmem).resolve_left hdiffers)
  | metParent => rfl
  | @parent seen pending other parent found _ _ hother hne _ ih =>
    have hdiffers : name ≠ other := fun heq => by
      rw [← heq, hname] at hother
      exact hne (Except.ok.inj hother ▸ htarget)
    refine ih (List.mem_append_right _ ((List.mem_cons.mp hpending).resolve_left hdiffers))
      fun hmem => ?_
    simp only [List.mem_cons, hdiffers, false_or] at hmem
    rcases hmem with heq | hmem
    · exact hown other parent hother heq.symm
    · exact hseen hmem

end Searches

namespace Gathers
variable {ds : List TypeDescriptor}

/-- No type is found twice, and none whose name was seen before. -/
theorem nodup (h : loader.Gathers seen queue ds) :
    (ds.map (·.name)).Nodup ∧ ∀ a ∈ ds, a.name ∉ seen := by
  induction h with
  | exhausted => simp
  | known _ _ ih => exact ih
  | unresolved _ _ _ ih => exact ⟨ih.1, fun a ha hseen => ih.2 a ha (List.mem_cons_of_mem _ hseen)⟩
  | foundBefore _ _ _ _ ih =>
    exact ⟨ih.1, fun a ha hseen => ih.2 a ha (List.mem_cons_of_mem _ hseen)⟩
  | found _ _ hnew _ ih =>
    obtain ⟨hnodup, hunseen⟩ := ih
    rw [List.map_cons, List.nodup_cons, List.forall_mem_cons]
    refine ⟨⟨fun hlater => ?_, hnodup⟩, hnew, fun a ha hseen => hunseen a ha (by simp [hseen])⟩
    obtain ⟨a, ha, hsame⟩ := List.mem_map.mp hlater
    exact hunseen a ha (by simp [hsame])

/-- What is found stands at or above a type that a name in the queue leads to. -/
theorem sound (h : loader.Gathers seen queue ds) : ∀ a ∈ ds, ∃ name ∈ queue, ∃ parent,
    (loader.resolve name).run = .ok parent ∧ Relation.ReflTransGen loader.Parent parent a := by
  have later {name : String} {queue : List String} {a : TypeDescriptor}
      (h : ∃ next ∈ queue, ∃ parent, (loader.resolve next).run = .ok parent ∧
        Relation.ReflTransGen loader.Parent parent a) :
      ∃ next ∈ name :: queue, ∃ parent, (loader.resolve next).run = .ok parent ∧
        Relation.ReflTransGen loader.Parent parent a := by
    obtain ⟨next, hnext, hup⟩ := h
    exact ⟨next, List.mem_cons_of_mem _ hnext, hup⟩
  induction h with
  | exhausted => simp
  | known _ _ ih => exact fun a ha => later (ih a ha)
  | unresolved _ _ _ ih => exact fun a ha => later (ih a ha)
  | foundBefore _ _ _ _ ih => exact fun a ha => later (ih a ha)
  | @found seen queue name parent ds _ hparent _ _ ih =>
    rw [List.forall_mem_cons]
    refine ⟨⟨name, List.mem_cons_self, parent, hparent, .refl⟩, fun a ha => ?_⟩
    obtain ⟨next, hnext, above, habove, hup⟩ := ih a ha
    rcases List.mem_append.mp hnext with hold | hlisted
    · exact later ⟨next, hold, above, habove, hup⟩
    · exact ⟨name, List.mem_cons_self, parent, hparent, hup.head ⟨next, hlisted, habove⟩⟩

/-- Where the walk has been, every name leads to a type that is found, or was known before. -/
theorem exists_closed (hloader : loader.WellBehaved) (h : loader.Gathers seen queue ds)
    (hclosed : loader.Closed seen queue) :
    ∃ names, seen ⊆ names ∧ queue ⊆ names ∧ loader.Closed names [] ∧
      ∀ name ∈ names, ∀ a, (loader.resolve name).run = .ok a → a.name ∈ seen ∨ a ∈ ds := by
  induction h with
  | @exhausted seen =>
    exact ⟨seen, List.Subset.refl _, List.nil_subset _, hclosed, fun name hname a ha =>
      .inl (hclosed name hname a ha).1⟩
  | known hseen _ ih =>
    obtain ⟨names, hold, hqueue, hall, hfound⟩ := ih (hclosed.tail_of_mem hseen)
    exact ⟨names, hold, List.cons_subset.mpr ⟨hold hseen, hqueue⟩, hall, hfound⟩
  | @unresolved seen queue name why ds _ hname _ ih =>
    obtain ⟨names, hold, hqueue, hall, hfound⟩ := ih (hclosed.cons_of_error hname)
    rw [List.cons_subset] at hold
    refine ⟨names, hold.2, List.cons_subset.mpr ⟨hold.1, hqueue⟩, hall, fun other hother a ha => ?_⟩
    refine (hfound other hother a ha).imp_left fun hmem => ?_
    rcases List.mem_cons.mp hmem with hsame | hmem
    · have hown := hloader.resolve_name ha
      simp [hsame, hname] at hown
    · exact hmem
  | @foundBefore seen queue name parent ds _ hname hbefore _ ih =>
    obtain ⟨names, hold, hqueue, hall, hfound⟩ := ih (hclosed.cons_of_known hloader hname hbefore)
    rw [List.cons_subset] at hold
    refine ⟨names, hold.2, List.cons_subset.mpr ⟨hold.1, hqueue⟩, hall, fun other hother a ha => ?_⟩
    refine (hfound other hother a ha).imp_left fun hmem => ?_
    rcases List.mem_cons.mp hmem with hsame | hmem
    · rwa [hloader.eq_of_name hname ha hsame]
    · exact hmem
  | @found seen queue name parent ds _ hname _ _ ih =>
    have hup : loader.Closed (parent.name :: name :: seen) (queue ++ parent.supertypes) := by
      refine (hclosed.cons_of_ok hloader hname).of_forall (fun _ => Iff.rfl) fun next hnext =>
        .inr ?_
      simpa [or_comm] using hnext
    obtain ⟨names, hold, hqueue, hall, hfound⟩ := ih hup
    simp only [List.cons_subset, List.append_subset] at hold hqueue
    refine ⟨names, hold.2.2, List.cons_subset.mpr ⟨hold.2.1, hqueue.1⟩, hall,
      fun other hother a ha => ?_⟩
    rw [List.mem_cons]
    rcases hfound other hother a ha with hmem | hlater
    · simp only [List.mem_cons] at hmem
      rcases hmem with hsame | hsame | hmem
      · exact .inr (.inl (hloader.eq_of_name (hloader.resolve_name hname) ha hsame))
      · exact .inr (.inl (hloader.eq_of_name hname ha hsame))
      · exact .inl hmem
    · exact .inr (.inr hlater)

end Gathers

/-- A type is assignable to what is found under the last name in its list, since that is the first
to be looked at. -/
theorem isAssignable_of_last {name : String} {p : TypeDescriptor}
    (hlast : d.supertypes.getLast? = some name)
    (hname : (loader.resolve name).run = .ok p) (hown : d.name = name → p.name = name) :
    (loader.isAssignable d p.name).run = .ok true := by
  by_cases hself : d.name = p.name
  · simp [isAssignable, hself]
  obtain ⟨others, hothers⟩ := List.getLast?_eq_some_iff.mp hlast
  have hpending : d.supertypes.reverse = name :: others.reverse := by
    rw [hothers, List.reverse_concat]
  simp only [isAssignable, if_neg hself, Id.run_bind, hpending, reaches]
  by_cases hspelled : name = p.name
  · simp [hspelled]
  have hnew : name ∉ [d.name] := by
    rw [List.mem_singleton]
    exact fun heq => hspelled (hown heq.symm).symm
  rw [if_neg hspelled, if_neg hnew, Id.run_bind, find?_of_ok hname]
  simp

theorem closed_start (hd : (loader.resolve d.name).run = .ok d)
    (hpending : d.supertypes ⊆ pending) : loader.Closed [d.name] pending := by
  intro name hname a ha
  obtain rfl := List.mem_singleton.mp hname
  obtain rfl : a = d := Except.ok.inj (ha.symm.trans hd)
  exact ⟨List.mem_cons_self, fun next hnext => .inr (hpending hnext)⟩

section
variable (hloader : loader.WellBehaved) (hd : (loader.resolve d.name).run = .ok d)
include hloader hd

/-- What stands above a type is found under its own name. -/
theorem resolve_above {a : TypeDescriptor} (h : Relation.ReflTransGen loader.Parent d a) :
    (loader.resolve a.name).run = .ok a := by
  induction h with
  | refl => exact hd
  | tail _ hparent _ =>
    obtain ⟨name, -, hname⟩ := hparent
    exact hloader.resolve_name hname

/-- The walk in breadth finds just the types above, the type itself left out. -/
theorem mem_gathered_iff {ds : List TypeDescriptor} (h : loader.Gathers [d.name] d.supertypes ds)
    {a : TypeDescriptor} : a ∈ ds ↔ Relation.TransGen loader.Parent d a ∧ a ≠ d := by
  constructor
  · intro ha
    obtain ⟨name, hname, parent, hparent, hup⟩ := h.sound a ha
    refine ⟨Relation.TransGen.head' ⟨name, hname, hparent⟩ hup, ?_⟩
    rintro rfl
    exact h.nodup.2 a ha List.mem_cons_self
  · rintro ⟨hup, hne⟩
    obtain ⟨names, hstart, -, hall, hfound⟩ :=
      h.exists_closed hloader (closed_start hd (List.Subset.refl _))
    have hname : a.name ∈ names := (hall.above hd (hstart List.mem_cons_self) hup.to_reflTransGen).1
    have hown := resolve_above hloader hd hup.to_reflTransGen
    rcases hfound a.name hname a hown with hsame | ha
    · exact absurd (hloader.eq_of_name hd hown (List.mem_singleton.mp hsame)) hne
    · exact ha

theorem found_iff {found : Bool} (h : loader.Searches target [d.name] d.supertypes.reverse found)
    (hne : d.name ≠ target) :
    found = true ↔ ∃ a, Relation.ReflTransGen loader.Parent d a ∧
      (target = a.name ∨ target ∈ a.supertypes) := by
  constructor
  · intro hfound
    rcases h.sound hfound with hlisted | ⟨name, hname, parent, a, hparent, hup, hspelled⟩
    · exact ⟨d, .refl, .inr (List.mem_reverse.mp hlisted)⟩
    · exact ⟨a, hup.head ⟨name, List.mem_reverse.mp hname, hparent⟩, hspelled⟩
  · rintro ⟨a, hup, hspelled⟩
    by_contra hfound
    obtain ⟨names, hstart, -, hall, hnot⟩ := h.exists_closed hloader (Bool.eq_false_iff.mpr hfound)
      (by simpa using hne.symm) (closed_start hd fun next hnext => List.mem_reverse.mpr hnext)
    obtain ⟨hname, hlisted⟩ := hall.above hd (hstart List.mem_cons_self) hup
    rcases hspelled with rfl | hmem
    · exact hnot hname
    · exact hnot (hlisted target hmem)

/-- A type is assignable to the names that it or a type above it carries or lists. -/
theorem exists_isAssignable (target : String) :
    ∃ found, (loader.isAssignable d target).run = .ok found ∧
      (d.name ≠ target → loader.Searches target [d.name] d.supertypes.reverse found) ∧
      (found = true ↔
        ∃ a, Relation.ReflTransGen loader.Parent d a ∧
          (target = a.name ∨ target ∈ a.supertypes)) := by
  obtain ⟨names, hlisted, hsup, hsteps⟩ := hloader.enough_steps hd
  by_cases hne : d.name = target
  · exact ⟨true, by simp [isAssignable, hne], fun h => absurd hne h,
      by simpa using ⟨d, .refl, .inl hne.symm⟩⟩
  · rw [← List.length_reverse] at hsteps
    obtain ⟨found, hrun, hsearch⟩ := exists_searches hloader hlisted
      (fun next hnext => hsup (List.mem_reverse.mp hnext)) hsteps
    exact ⟨found, by simpa [isAssignable, hne] using hrun, fun _ => hsearch,
      found_iff hloader hd hsearch hne⟩

theorem isAssignable_iff (target : String) :
    (loader.isAssignable d target).run = .ok true ↔
      ∃ a, Relation.ReflTransGen loader.Parent d a ∧ (target = a.name ∨ target ∈ a.supertypes) := by
  obtain ⟨found, hrun, -, hfound⟩ := exists_isAssignable hloader hd target
  rw [hrun, ← hfound, Except.ok.injEq]

/-- What a type is assignable to by way of its list of supertypes. -/
theorem isAssignable_iff_listed (target : String) :
    (loader.isAssignable d target).run = .ok true ↔
      target = d.name ∨ ∃ listed ∈ d.supertypes, target = listed ∨
      ∃ parent, (loader.resolve listed).run = .ok parent ∧
        (loader.isAssignable parent target).run = .ok true := by
  rw [isAssignable_iff hloader hd]
  constructor
  · rintro ⟨a, hup, hspelled⟩
    rcases hup.cases_head with rfl | ⟨parent, ⟨listed, hlisted, hparent⟩, habove⟩
    · exact hspelled.imp_right fun hmem => ⟨target, hmem, .inl rfl⟩
    · have hassignable :=
        (isAssignable_iff hloader (hloader.resolve_name hparent) target).mpr ⟨a, habove, hspelled⟩
      exact .inr ⟨listed, hlisted, .inr ⟨parent, hparent, hassignable⟩⟩
  · rintro (hself | ⟨listed, hlisted, rfl | ⟨parent, hparent, hassignable⟩⟩)
    · exact ⟨d, .refl, .inl hself⟩
    · exact ⟨d, .refl, .inr hlisted⟩
    · obtain ⟨a, habove, hspelled⟩ :=
        (isAssignable_iff hloader (hloader.resolve_name hparent) target).mp hassignable
      exact ⟨a, habove.head ⟨listed, hlisted, hparent⟩, hspelled⟩

/-- What is assignable to a type's name is assignable to all that the type is assignable to. -/
theorem isAssignable_trans {middle : String} {p : TypeDescriptor}
    (hmiddle : (loader.isAssignable d middle).run = .ok true)
    (hp : (loader.resolve middle).run = .ok p)
    (htarget : (loader.isAssignable p target).run = .ok true) :
    (loader.isAssignable d target).run = .ok true := by
  rw [isAssignable_iff hloader hd] at hmiddle ⊢
  rw [isAssignable_iff hloader (hloader.resolve_name hp)] at htarget
  obtain ⟨a, hup, hspelled⟩ := hmiddle
  obtain ⟨b, habove, htarget⟩ := htarget
  have hdp : Relation.ReflTransGen loader.Parent d p := by
    rcases hspelled with rfl | hlisted
    · obtain rfl : a = p := Except.ok.inj ((resolve_above hloader hd hup).symm.trans hp)
      exact hup
    · exact hup.tail ⟨middle, hlisted, hp⟩
  exact ⟨b, hdp.trans habove, htarget⟩

end

/-- A loader of finitely many types which gives them under their own names as well is well behaved
as soon as it counts supertypes high enough. -/
theorem exists_wellBehaved (loader : Loader Id)
    (hname : ∀ name d, (loader.resolve name).run = .ok d → (loader.resolve d.name).run = .ok d)
    (hfault : ∀ name e, (loader.resolve name).run ≠ .error (.fault e))
    (hfinite : {d | ∃ name, (loader.resolve name).run = .ok d}.Finite) :
    ∃ count, ∀ more, count ≤ more → WellBehaved { loader with supertypeCount := pure more } := by
  let names := hfinite.toFinset.toList.flatMap (·.supertypes)
  refine ⟨(names.map loader.width).sum, fun more hmore => ⟨hname _ _, hfault, names, ?_, hmore⟩⟩
  intro name d next hd hnext
  have hmem : d ∈ hfinite.toFinset.toList := by simpa using ⟨name, hd⟩
  exact List.mem_flatMap.mpr ⟨d, hmem, hnext⟩

section
variable {g : TypeGraph} {name : String}

theorem resolve_graph_of_some (h : g.find? name = some d) :
    (g.loader.resolve name).run = .ok d := by
  simp only [TypeGraph.loader, h]
  rfl

theorem resolve_graph_of_none (h : g.find? name = none) :
    (g.loader.resolve name).run = .error (.unresolved (.unknownType name)) := by
  simp only [TypeGraph.loader, h]
  rfl

theorem find?_of_resolve_graph (h : (g.loader.resolve name).run = .ok d) :
    g.find? name = some d := by
  cases hfind : g.find? name with
  | none => simp [resolve_graph_of_none hfind] at h
  | some found => rw [Except.ok.inj ((resolve_graph_of_some hfind).symm.trans h)]

end

/-- A graph of types is well behaved: it gives every type under one name, and other names have no
width. -/
theorem wellBehaved_graph (g : TypeGraph) : g.loader.WellBehaved := by
  let missing := (g.types.flatMap (·.supertypes)).filter fun name => (g.find? name).isNone
  have hmissing : missing.map g.loader.width = List.replicate missing.length 0 := by
    refine List.map_eq_replicate_iff.mpr fun name hname => ?_
    have hnone : g.find? name = none := by simpa using (List.mem_filter.mp hname).2
    simp [width, resolve_graph_of_none hnone]
  have hknown : (g.types.map (·.name)).map g.loader.width = g.types.map (·.supertypes.length) := by
    rw [List.map_map]
    refine List.map_congr_left fun d hd => ?_
    simp [width, resolve_graph_of_some (TypeGraph.find?_of_mem hd)]
  refine ⟨fun {name d} hd => ?_, fun name e => ?_, g.types.map (·.name) ++ missing, ?_, ?_⟩
  · have hfind := find?_of_resolve_graph hd
    rwa [TypeGraph.name_of_find? hfind]
  · cases hfind : g.find? name with
    | none => simp [resolve_graph_of_none hfind]
    | some found => simp [resolve_graph_of_some hfind]
  · intro name d next hd hnext
    have hmem : d ∈ g.types := List.mem_of_find?_eq_some (find?_of_resolve_graph hd)
    rw [List.mem_append]
    cases hfind : g.find? next with
    | none =>
      exact .inr (List.mem_filter.mpr
        ⟨List.mem_flatMap.mpr ⟨d, hmem, hnext⟩, by simp [hfind]⟩)
    | some found =>
      exact .inl (List.mem_map.mpr
        ⟨found, List.mem_of_find?_eq_some hfind, TypeGraph.name_of_find? hfind⟩)
  · rw [List.map_append, List.sum_append, hmissing, hknown]
    show _ ≤ g.supertypeCount
    rw [TypeGraph.supertypeCount, List.length_flatMap]
    simp

/-- A loader of finitely many types that gives them under their own names as well, such as a graph
of types, is well behaved as soon as it counts supertypes high enough. With a well behaved loader
both walks come to their ends. The walk in breadth finds just the types above, each once and without
the type itself, whatever cycles and second names there are. A type is assignable to just the names
that are carried or written down by itself and by these; so being assignable passes on through every
name that leads to a type. -/
theorem closure_exact :
    (∀ loader : Loader Id,
      (∀ name d, (loader.resolve name).run = .ok d → (loader.resolve d.name).run = .ok d) →
      (∀ name e, (loader.resolve name).run ≠ .error (.fault e)) →
      {d | ∃ name, (loader.resolve name).run = .ok d}.Finite →
      ∃ count, ∀ more, count ≤ more → WellBehaved { loader with supertypeCount := pure more }) ∧
    (∀ g : TypeGraph, g.loader.WellBehaved) ∧
    ∀ loader : Loader Id, loader.WellBehaved → ∀ d, (loader.resolve d.name).run = .ok d →
      ∃ ds, (loader.ancestors d).run = ⟨ds, none⟩ ∧ loader.Gathers [d.name] d.supertypes ds ∧
        (ds.map (·.name)).Nodup ∧ (∀ a, a ∈ ds ↔ Relation.TransGen loader.Parent d a ∧ a ≠ d) ∧
        (∀ target, ∃ found, (loader.isAssignable d target).run = .ok found ∧
          (d.name ≠ target → loader.Searches target [d.name] d.supertypes.reverse found) ∧
          (found = true ↔ target = d.name ∨ (∃ a ∈ ds, target = a.name) ∨
            target ∈ d.supertypes ∨ ∃ a ∈ ds, target ∈ a.supertypes)) ∧
        ∀ middle p target, (loader.isAssignable d middle).run = .ok true →
          (loader.resolve middle).run = .ok p → (loader.isAssignable p target).run = .ok true →
          (loader.isAssignable d target).run = .ok true := by
  refine ⟨exists_wellBehaved, wellBehaved_graph, fun loader hloader d hd => ?_⟩
  obtain ⟨names, hlisted, hsup, hsteps⟩ := hloader.enough_steps hd
  obtain ⟨ds, hrun, hgather⟩ := exists_gathers hloader hlisted hsup hsteps
  have hmem (a : TypeDescriptor) : a ∈ ds ↔ Relation.TransGen loader.Parent d a ∧ a ≠ d :=
    mem_gathered_iff hloader hd hgather
  refine ⟨ds, hrun, hgather, hgather.nodup.1, hmem, fun target => ?_,
    fun middle p target hmiddle hp htarget =>
    isAssignable_trans hloader hd hmiddle hp htarget⟩
  obtain ⟨found, hfound, hsearch, hiff⟩ := exists_isAssignable hloader hd target
  refine ⟨found, hfound, hsearch, hiff.trans ⟨?_, ?_⟩⟩
  · rintro ⟨a, hup, hspelled⟩
    by_cases hself : a = d
    · rw [hself] at hspelled
      exact hspelled.imp_right fun h => .inr (.inl h)
    · have ha : a ∈ ds :=
        (hmem a).mpr ⟨(Relation.reflTransGen_iff_eq_or_transGen.mp hup).resolve_left hself, hself⟩
      rcases hspelled with hcarried | hwritten
      · exact .inr (.inl ⟨a, ha, hcarried⟩)
      · exact .inr (.inr (.inr ⟨a, ha, hwritten⟩))
  · have hup {a : TypeDescriptor} (ha : a ∈ ds) : Relation.ReflTransGen loader.Parent d a :=
      ((hmem a).mp ha).1.to_reflTransGen
    rintro (hown | ⟨a, ha, hcarried⟩ | hwritten | ⟨a, ha, hwritten⟩)
    · exact ⟨d, .refl, .inl hown⟩
    · exact ⟨a, hup ha, .inl hcarried⟩
    · exact ⟨d, .refl, .inr hwritten⟩
    · exact ⟨a, hup ha, .inr hwritten⟩

/-- An animal that lists a dog and a name without a type. -/
def loopAnimal : TypeDescriptor :=
  { name := "pets.base.Animal", module := "pets.base", supertypes := ["dogs.Dog", "ext.Missing"] }

/-- A dog that lists the animal three times, under two names. -/
def loopDog : TypeDescriptor :=
  { name := "dogs.Dog", module := "dogs",
    supertypes := ["pets.Animal", "pets.base.Animal", "pets.Animal"] }

/-- The loader of the two, which knows the animal under a second name. -/
def loop : Loader Id where
  resolve name :=
    if name = "pets.Animal" ∨ name = loopAnimal.name then .ok loopAnimal
    else if name = loopDog.name then .ok loopDog
    else .error (.unresolved (.unknownType name))
  declaredTypes _ _ := .ok []
  supertypeCount := pure 7

theorem resolve_loop {name : String} {d : TypeDescriptor} (h : (loop.resolve name).run = .ok d) :
    d = loopAnimal ∨ d = loopDog := by
  simp only [loop, Id.run] at h
  split_ifs at h
  · exact .inl (Except.ok.inj h).symm
  · exact .inr (Except.ok.inj h).symm

theorem wellBehaved_loop : loop.WellBehaved := by
  refine ⟨fun {name d} h => ?_, fun name e h => ?_,
    ["dogs.Dog", "ext.Missing", "pets.Animal", "pets.base.Animal"], ?_, ?_⟩
  · rcases resolve_loop h with rfl | rfl <;> rfl
  · simp only [loop, Id.run] at h
    split_ifs at h
    cases h
  · intro name d next h hnext
    rcases resolve_loop h with rfl | rfl
    · exact List.mem_of_mem_take (i := 2) hnext
    · simp only [loopDog, List.mem_cons, List.not_mem_nil, or_false] at hnext
      rcases hnext with rfl | rfl | rfl <;> simp
  · decide

/-- The dog is assignable to the name without a type; the animal is above it, and the dog not above
itself. -/
theorem closure_exact_loop :
    (loop.resolve "pets.Animal").run = .ok loopAnimal ∧ loop.WellBehaved ∧
    (loop.resolve loopDog.name).run = .ok loopDog ∧
    (loop.isAssignable loopDog "ext.Missing").run = .ok true ∧
    ∃ ds, (loop.ancestors loopDog).run = ⟨ds, none⟩ ∧ loopAnimal ∈ ds ∧ loopDog ∉ ds := by
  have hdog : (loop.resolve loopDog.name).run = .ok loopDog := rfl
  obtain ⟨ds, hrun, -, -, hmem, hassignable, -⟩ :=
    closure_exact.2.2 loop wellBehaved_loop loopDog hdog
  have hanimal : loopAnimal ∈ ds :=
    (hmem loopAnimal).mpr ⟨.single ⟨"pets.Animal", List.mem_cons_self, rfl⟩, by decide⟩
  refine ⟨rfl, wellBehaved_loop, hdog, ?_, ds, hrun, hanimal,
    fun hself => ((hmem loopDog).mp hself).2 rfl⟩
  obtain ⟨found, hfound, -, hiff⟩ := hassignable "ext.Missing"
  rw [hfound, hiff.mpr (.inr (.inr (.inr ⟨loopAnimal, hanimal, by decide⟩)))]

end RetentionPlan.Loading.Loader
