import Mathlib.Algebra.Ring.Nat
import RetentionPlan.Proofs.Loading.Correspondence

/-!
# The names that a type is compared with

Whether a type is assignable to a target is settled by the spelling of the target. The walk over the
supertypes compares it with the names that are written down and with those of the types found under
them; what the target itself stands for is never asked. Here are these names, for any loader, and
what they are if the loader is well behaved.
-/
namespace RetentionPlan.Loading

namespace Loader

section
variable {m : Type → Type} [Monad m]

/-- The names met on a walk like that of `reaches` which looks for nothing, up to the first
fault. -/
def namesFrom (loader : Loader m) : Nat → (seen pending : List String) → m (Found String)
  | 0, _, _ => return .none
  | _ + 1, _, [] => return .none
  | steps + 1, seen, name :: pending => do
    if name ∈ seen then return .cons name (← loader.namesFrom steps seen pending)
    else
      match ← loader.find? name with
      | .error e => return ⟨[name], some e⟩
      | .ok none => return .cons name (← loader.namesFrom steps (name :: seen) pending)
      | .ok (some parent) =>
        return .cons name (.cons parent.name (← loader.namesFrom steps
          (parent.name :: name :: seen) (parent.supertypes.reverse ++ pending)))

/-- The names that a type is compared with: its own and those above it. -/
def namesOf (loader : Loader m) (d : TypeDescriptor) : m (Found String) := do
  let count ← loader.supertypeCount
  return .cons d.name
    (← loader.namesFrom (d.supertypes.length + count + 1) [d.name] d.supertypes.reverse)

end

/-- Is the target met before a fault? -/
def verdict (target : String) (names : Found String) : Except Fault Bool :=
  if target ∈ names.items then .ok true else names.toExcept.map fun _ => false

theorem verdict_cons_self (name : String) (names : Found String) :
    verdict name (.cons name names) = .ok true := by
  simp [verdict]

theorem verdict_cons_of_ne {name target : String} (h : name ≠ target) (names : Found String) :
    verdict target (.cons name names) = verdict target names := by
  unfold verdict Found.toExcept
  simp only [Found.items_cons, List.mem_cons, h.symm, false_or, Found.fault_cons]
  cases names.fault <;> rfl

theorem verdict_eq_true_iff {target : String} {names : Found String} :
    verdict target names = .ok true ↔ target ∈ names.items := by
  unfold verdict
  split
  · next h => simp [h]
  · next h => cases names.toExcept <;> simp [h, Except.map]

section
variable {σ : Type} (loader : Loader (StateM σ))

/-- A search and a walk that looks for nothing meet the same names until the search ends. -/
theorem reaches_eq_verdict (target : String) (steps : Nat) (seen pending : List String) (s : σ) :
    answer (loader.reaches target steps seen pending) s =
      verdict target (answer (loader.namesFrom steps seen pending) s) := by
  induction steps generalizing seen pending s with
  | zero => rfl
  | succ steps ih =>
    cases pending with
    | nil => rfl
    | cons name pending =>
      simp only [reaches, namesFrom]
      by_cases hname : name = target
      · -- Whatever the longer walk does next, this name is the first that it meets.
        subst hname
        rw [if_pos rfl]
        split
        · exact (verdict_cons_self name _).symm
        · rw [answer_bind]
          rcases answer (loader.find? name) s with e | _ | parent
          · simp [verdict]
          · exact (verdict_cons_self name _).symm
          · exact (verdict_cons_self name _).symm
      · rw [if_neg hname]
        by_cases hseen : name ∈ seen
        · simp only [if_pos hseen]
          exact (ih seen pending s).trans (verdict_cons_of_ne hname _).symm
        · simp only [if_neg hseen, answer_bind]
          rcases answer (loader.find? name) s with e | _ | parent
          · simp [verdict, Ne.symm hname, Found.toExcept, Except.map]
          · exact (ih (name :: seen) pending _).trans (verdict_cons_of_ne hname _).symm
          · dsimp only
            by_cases hparent : parent.name = target
            · rw [if_pos hparent, answer_bind, answer_pure, answer_pure, verdict_cons_of_ne hname,
                ← hparent]
              exact (verdict_cons_self parent.name _).symm
            · rw [if_neg hparent, ih, answer_bind, answer_pure, verdict_cons_of_ne hname,
                verdict_cons_of_ne hparent]

theorem isAssignable_eq_verdict (d : TypeDescriptor) (target : String) (s : σ) :
    answer (loader.isAssignable d target) s = verdict target (answer (loader.namesOf d) s) := by
  simp only [isAssignable, namesOf]
  by_cases hname : d.name = target
  · rw [if_pos hname, ← hname]
    exact (verdict_cons_self d.name _).symm
  · simp only [if_neg hname, answer_bind, answer_pure, verdict_cons_of_ne hname]
    exact loader.reaches_eq_verdict target _ _ _ _

end

section
variable {m n : Type → Type} [Monad m] [Monad n]
variable {R : Correspondence m n} {asked : (path root : Path) → Prop}
variable {loader : Loader m} {other : Loader n}

theorem Corresponds.namesFrom (h : loader.Corresponds R asked other) (steps : Nat)
    (seen pending : List String) :
    R.Rel (loader.namesFrom steps seen pending) (other.namesFrom steps seen pending) := by
  induction steps generalizing seen pending with
  | zero => exact R.pure _
  | succ steps ih =>
    cases pending with
    | nil => exact R.pure _
    | cons name pending =>
      simp only [Loader.namesFrom]
      split
      · exact R.bind (ih _ _) fun _ => R.pure _
      · refine R.bind (h.find? name) fun found => ?_
        rcases found with _ | _ | parent
        · exact R.pure _
        · exact R.bind (ih _ _) fun _ => R.pure _
        · exact R.bind (ih _ _) fun _ => R.pure _

theorem Corresponds.namesOf (h : loader.Corresponds R asked other) (d : TypeDescriptor) :
    R.Rel (loader.namesOf d) (other.namesOf d) :=
  R.bind h.supertypeCount fun _ => R.bind (h.namesFrom _ _ _) fun _ => R.pure _

end

/-- The names that stand above a type: those written in its list of supertypes, and for each that a
type is found under, the name of that type and those in its list. -/
inductive Above (loader : Loader Id) (d : TypeDescriptor) : String → Prop
  | listed {name : String} : name ∈ d.supertypes → Above loader d name
  | defining {name : String} {parent : TypeDescriptor} :
      Above loader d name → (loader.resolve name).run = .ok parent → Above loader d parent.name
  | further {name : String} {parent : TypeDescriptor} {next : String} :
      Above loader d name → (loader.resolve name).run = .ok parent → next ∈ parent.supertypes →
        Above loader d next

/-- The number of supertypes listed by what is found under a name. -/
def width (loader : Loader Id) (name : String) : Nat :=
  match (loader.resolve name).run with
  | .ok d => d.supertypes.length
  | .error _ => 0

/-- The number of supertypes listed under those of the names that are not seen. -/
def widthOutside (loader : Loader Id) (names seen : List String) : Nat :=
  (names.map fun name => if name ∈ seen then 0 else loader.width name).sum

/-- A loader of finitely many types that gives them under their own names as well. Only finitely
many names stand in their lists, however many there are that a type is found under. -/
structure WellBehaved (loader : Loader Id) : Prop where
  resolve_name {name : String} {d : TypeDescriptor} :
    (loader.resolve name).run = .ok d → (loader.resolve d.name).run = .ok d
  not_fault (name : String) (e : Fault) : (loader.resolve name).run ≠ .error (.fault e)
  finite : ∃ names : List String,
    (∀ {name d next}, (loader.resolve name).run = .ok d → next ∈ d.supertypes → next ∈ names) ∧
      (names.map loader.width).sum ≤ loader.supertypeCount.run

section
variable {loader : Loader Id}

theorem widthOutside_le_of_subset {seen seen' : List String} (h : seen ⊆ seen')
    (names : List String) : loader.widthOutside names seen' ≤ loader.widthOutside names seen := by
  induction names with
  | nil => exact Nat.le_refl _
  | cons name names ih =>
    simp only [widthOutside, List.map_cons, List.sum_cons] at ih ⊢
    by_cases hname : name ∈ seen
    · simpa [hname, h hname] using ih
    · rw [if_neg hname]
      split <;> omega

/-- Seeing a name takes what is listed under it off what is still ahead. -/
theorem width_add_widthOutside_le {names seen seen' : List String} {name : String}
    (hname : name ∈ names) (hseen : name ∉ seen) (h : name :: seen ⊆ seen') :
    loader.width name + loader.widthOutside names seen' ≤ loader.widthOutside names seen := by
  have hmem : name ∈ seen' := h List.mem_cons_self
  have hsub : seen ⊆ seen' := fun x hx => h (List.mem_cons_of_mem _ hx)
  induction names with
  | nil => simp at hname
  | cons other names ih =>
    have hrest : loader.widthOutside names seen' ≤ loader.widthOutside names seen :=
      widthOutside_le_of_subset hsub names
    simp only [widthOutside, List.map_cons, List.sum_cons] at ih hrest ⊢
    by_cases hother : other = name
    · rw [hother, if_pos hmem, if_neg hseen]
      omega
    · have hin : name ∈ names := by simpa [Ne.symm hother] using hname
      have hle := ih hin
      by_cases hold : other ∈ seen
      · rw [if_pos hold, if_pos (hsub hold)]
        omega
      · rw [if_neg hold]
        split <;> omega

/-- Do names together with some others hold all that stands above them? -/
def Closed (loader : Loader Id) (seen pending : List String) : Prop :=
  ∀ name ∈ seen, ∀ d, (loader.resolve name).run = .ok d →
    d.name ∈ seen ∧ ∀ next ∈ d.supertypes, next ∈ seen ∨ next ∈ pending

theorem Closed.of_forall {seen seen' pending pending' : List String}
    (h : loader.Closed seen pending) (hseen : ∀ name, name ∈ seen' ↔ name ∈ seen)
    (hpending : ∀ name ∈ pending, name ∈ seen' ∨ name ∈ pending') :
    loader.Closed seen' pending' := by
  intro name hname d hd
  obtain ⟨hown, hnext⟩ := h name ((hseen name).mp hname) d hd
  refine ⟨(hseen _).mpr hown, fun next hmem => ?_⟩
  rcases hnext next hmem with hold | hlater
  · exact .inl ((hseen next).mpr hold)
  · exact hpending next hlater

/-- A name that is known already need not be followed again. -/
theorem Closed.tail_of_mem {seen pending : List String} {name : String}
    (h : loader.Closed seen (name :: pending)) (hname : name ∈ seen) :
    loader.Closed seen pending := by
  refine h.of_forall (fun _ => Iff.rfl) fun next hnext => ?_
  rcases List.mem_cons.mp hnext with rfl | hnext
  · exact .inl hname
  · exact .inr hnext

theorem Closed.append_cons_of_mem {seen found : List String} {name : String}
    (h : loader.Closed (seen ++ found) []) (hname : name ∈ seen) :
    loader.Closed (seen ++ name :: found) [] := by
  refine h.of_forall (fun next => ?_) (by simp)
  simp only [List.mem_append, List.mem_cons]
  constructor
  · rintro (hold | rfl | hnew)
    · exact .inl hold
    · exact .inl hname
    · exact .inr hnew
  · exact Or.imp_right .inr

/-- A name without a type has nothing above it. -/
theorem Closed.cons_of_error {seen pending : List String} {name : String} {e : LoadError}
    (h : loader.Closed seen (name :: pending)) (hname : (loader.resolve name).run = .error e) :
    loader.Closed (name :: seen) pending := by
  intro other hother d hd
  rcases List.mem_cons.mp hother with rfl | hother
  · simp [hname] at hd
  · obtain ⟨hown, hnext⟩ := h other hother d hd
    refine ⟨List.mem_cons_of_mem _ hown, fun next hmem => ?_⟩
    rcases hnext next hmem with hold | hlater
    · exact .inl (List.mem_cons_of_mem _ hold)
    · rcases List.mem_cons.mp hlater with rfl | hlater
      · exact .inl List.mem_cons_self
      · exact .inr hlater

/-- A name with a type has above it what is put on the stack for it. -/
theorem Closed.cons_of_ok (hloader : loader.WellBehaved) {seen pending : List String}
    {name : String} {parent : TypeDescriptor} (h : loader.Closed seen (name :: pending))
    (hname : (loader.resolve name).run = .ok parent) :
    loader.Closed (parent.name :: name :: seen) (parent.supertypes.reverse ++ pending) := by
  intro other hother d hd
  have hparent := hloader.resolve_name hname
  simp only [List.mem_cons] at hother
  rcases hother with rfl | rfl | hother
  · obtain rfl : parent = d := by simpa [hparent] using hd
    exact ⟨List.mem_cons_self, fun next hmem => .inr (by simp [hmem])⟩
  · obtain rfl : parent = d := by simpa [hname] using hd
    exact ⟨List.mem_cons_self, fun next hmem => .inr (by simp [hmem])⟩
  · obtain ⟨hown, hnext⟩ := h other hother d hd
    refine ⟨by simp [hown], fun next hmem => ?_⟩
    rcases hnext next hmem with hold | hlater
    · exact .inl (by simp [hold])
    · rcases List.mem_cons.mp hlater with rfl | hlater
      · exact .inl (by simp)
      · exact .inr (List.mem_append_right _ hlater)

theorem WellBehaved.find? (hloader : loader.WellBehaved) (name : String) :
    (∃ e, (loader.resolve name).run = .error e ∧ (loader.find? name).run = .ok none) ∨
      ∃ d, (loader.resolve name).run = .ok d ∧ (loader.find? name).run = .ok (some d) := by
  simp only [Loader.find?, Id.run_bind]
  rcases h : (loader.resolve name).run with (cause | fault) | d
  · exact .inl ⟨_, rfl, rfl⟩
  · exact absurd h (hloader.not_fault name fault)
  · exact .inr ⟨d, rfl, rfl⟩

/-- A walk with enough steps meets the names on its stack and, with those seen before, all that is
above them. The steps are enough if there is one for each name on the stack and for each supertype
that can still come onto it. -/
theorem closed_namesFrom (hloader : loader.WellBehaved) {names : List String}
    (hlisted : ∀ {name d next}, (loader.resolve name).run = .ok d → next ∈ d.supertypes →
      next ∈ names)
    {steps : Nat} {seen pending : List String} (hpending : pending ⊆ names)
    (hsteps : pending.length + loader.widthOutside names seen < steps)
    (hclosed : loader.Closed seen pending) :
    let found := (loader.namesFrom steps seen pending).run
    found.fault = none ∧ pending ⊆ found.items ∧ loader.Closed (seen ++ found.items) [] := by
  -- The same account of steps as for a search, which goes through the same stack.
  induction steps generalizing seen pending with
  | zero => omega
  | succ steps ih =>
    cases pending with
    | nil => exact ⟨rfl, List.Subset.refl _, by simpa [namesFrom, Found.none] using hclosed⟩
    | cons name pending =>
      rw [List.cons_subset] at hpending
      simp only [List.length_cons] at hsteps
      simp only [namesFrom]
      by_cases hseen : name ∈ seen
      · obtain ⟨hfault, hsub, hall⟩ := ih hpending.2 (by omega) (hclosed.tail_of_mem hseen)
        simp only [if_pos hseen, Id.run_bind, Id.run_pure, Found.fault_cons, Found.items_cons]
        exact ⟨hfault, List.cons_subset_cons name hsub, hall.append_cons_of_mem hseen⟩
      · rw [if_neg hseen]
        rcases hloader.find? name with ⟨e, hname, hfind⟩ | ⟨parent, hname, hfind⟩
        · have houtside : loader.widthOutside names (name :: seen) ≤
              loader.widthOutside names seen :=
            widthOutside_le_of_subset (List.subset_cons_self name seen) names
          obtain ⟨hfault, hsub, hall⟩ := ih hpending.2 (by omega) (hclosed.cons_of_error hname)
          simp only [Id.run_bind, hfind, Id.run_pure, Found.fault_cons, Found.items_cons]
          refine ⟨hfault, List.cons_subset_cons name hsub,
            hall.of_forall (fun next => ?_) (by simp)⟩
          simp only [List.mem_append, List.mem_cons, or_assoc, or_left_comm]
        · have hwidth : loader.width name = parent.supertypes.length := by simp [width, hname]
          have houtside : loader.width name +
              loader.widthOutside names (parent.name :: name :: seen) ≤
                loader.widthOutside names seen :=
            width_add_widthOutside_le hpending.1 hseen (List.subset_cons_self _ _)
          have hsup : parent.supertypes.reverse ++ pending ⊆ names := by
            simp only [List.append_subset, List.reverse_subset]
            exact ⟨fun next hnext => hlisted hname hnext, hpending.2⟩
          obtain ⟨hfault, hsub, hall⟩ := ih hsup
            (by simp only [List.length_append, List.length_reverse]; omega)
            (hclosed.cons_of_ok hloader hname)
          simp only [Id.run_bind, hfind, Id.run_pure, Found.fault_cons, Found.items_cons]
          refine ⟨hfault, List.cons_subset_cons name fun next hnext => ?_,
            hall.of_forall (fun next => ?_) (by simp)⟩
          · exact List.mem_cons_of_mem _ (hsub (List.mem_append_right _ hnext))
          · simp only [List.mem_append, List.mem_cons, or_assoc, or_left_comm]

theorem above_of_mem_namesFrom {d : TypeDescriptor} {steps : Nat} {seen pending : List String}
    (hpending : ∀ name ∈ pending, loader.Above d name) {name : String}
    (hname : name ∈ (loader.namesFrom steps seen pending).run.items) : loader.Above d name := by
  induction steps generalizing seen pending with
  | zero => simp [namesFrom, Found.none] at hname
  | succ steps ih =>
    cases pending with
    | nil => simp [namesFrom, Found.none] at hname
    | cons next pending =>
      have hnext := hpending next List.mem_cons_self
      have hlater : ∀ other ∈ pending, loader.Above d other :=
        fun other hother => hpending other (List.mem_cons_of_mem _ hother)
      simp only [namesFrom] at hname
      split at hname
      · simp only [Id.run_bind, Id.run_pure, Found.items_cons, List.mem_cons] at hname
        rcases hname with rfl | hname
        · exact hnext
        · exact ih hlater hname
      · simp only [Id.run_bind] at hname
        rcases hfind : (loader.find? next).run with e | _ | parent
        · simp only [hfind, Id.run_pure, List.mem_singleton] at hname
          exact hname ▸ hnext
        · simp only [hfind, Id.run_bind, Id.run_pure, Found.items_cons, List.mem_cons] at hname
          rcases hname with rfl | hname
          · exact hnext
          · exact ih hlater hname
        · simp only [hfind, Id.run_bind, Id.run_pure, Found.items_cons, List.mem_cons] at hname
          have hparent : (loader.resolve next).run = .ok parent := resolve_of_find? hfind
          rcases hname with rfl | rfl | hname
          · exact hnext
          · exact hnext.defining hparent
          · refine ih (fun other hother => ?_) hname
            rcases List.mem_append.mp hother with hup | hother
            · exact hnext.further hparent (List.mem_reverse.mp hup)
            · exact hlater other hother

theorem mem_namesOf_iff (hloader : loader.WellBehaved) {d : TypeDescriptor}
    (hd : (loader.resolve d.name).run = .ok d) {name : String} :
    name ∈ (loader.namesOf d).run.items ↔ name = d.name ∨ loader.Above d name := by
  obtain ⟨names, hlisted, hwidth⟩ := hloader.finite
  have hpending : d.supertypes.reverse ⊆ names := fun next hnext =>
    hlisted hd (List.mem_reverse.mp hnext)
  have hstart : loader.Closed [d.name] d.supertypes.reverse := by
    intro other hother parent hparent
    obtain rfl := List.mem_singleton.mp hother
    obtain rfl : d = parent := by simpa [hd] using hparent
    exact ⟨List.mem_cons_self, fun next hnext => .inr (by simpa using hnext)⟩
  have hsteps : d.supertypes.reverse.length + loader.widthOutside names [d.name] <
      d.supertypes.length + loader.supertypeCount.run + 1 := by
    have hseen : loader.widthOutside names [d.name] ≤ loader.widthOutside names [] :=
      widthOutside_le_of_subset (List.nil_subset _) names
    have hall : loader.widthOutside names [] = (names.map loader.width).sum := by
      simp [widthOutside]
    rw [List.length_reverse]
    omega
  obtain ⟨-, hfrom, hclosed⟩ := closed_namesFrom hloader hlisted hpending hsteps hstart
  simp only [namesOf, Id.run_bind, Id.run_pure, Found.items_cons]
  rw [List.mem_cons]
  constructor
  · rintro (rfl | hname)
    · exact .inl rfl
    · refine .inr (above_of_mem_namesFrom (fun next hnext => ?_) hname)
      exact .listed (List.mem_reverse.mp hnext)
  · rintro (rfl | habove)
    · exact .inl rfl
    · rw [← List.mem_cons]
      -- What the walk has met is closed, so it holds whatever is above.
      induction habove with
      | listed hlist => exact List.mem_cons_of_mem _ (hfrom (List.mem_reverse.mpr hlist))
      | defining _ hparent ih => exact (hclosed _ ih _ hparent).1
      | further _ hparent hnext ih => simpa using (hclosed _ ih _ hparent).2 _ hnext

end
end Loader
end RetentionPlan.Loading
