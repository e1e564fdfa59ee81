import RetentionPlan.Loading.Ancestry

/-!
# Corresponding loaders

The library asks its loader for descriptors and never looks at the effects of the questions. So
whatever relates the answers of two loaders relates everything that is computed with them. Here are
the relations, and the walks over supertypes.
-/
namespace RetentionPlan.Loading

section
variable {σ α β : Type}

/-- What a computation gives from a state. -/
def answer (x : StateM σ α) (s : σ) : α := (x.run s).1

def after (x : StateM σ α) (s : σ) : σ := (x.run s).2

@[simp] theorem answer_pure (a : α) (s : σ) : answer (pure a) s = a := rfl

@[simp] theorem after_pure (a : α) (s : σ) : after (pure a) s = s := rfl

@[simp] theorem answer_bind (x : StateM σ α) (f : α → StateM σ β) (s : σ) :
    answer (x >>= f) s = answer (f (answer x s)) (after x s) := rfl

@[simp] theorem after_bind (x : StateM σ α) (f : α → StateM σ β) (s : σ) :
    after (x >>= f) s = after (f (answer x s)) (after x s) := rfl

theorem answer_map (f : α → β) (x : StateM σ α) (s : σ) : answer (f <$> x) s = f (answer x s) := rfl

theorem after_map (f : α → β) (x : StateM σ α) (s : σ) : after (f <$> x) s = after x s := rfl

/-- Does what a computation gives have a property, whatever state it starts from? -/
def Ensures (post : α → Prop) (x : StateM σ α) : Prop := ∀ s, post (answer x s)

theorem Ensures.trivial (x : StateM σ α) : Ensures (fun _ => True) x := fun _ => True.intro

theorem Ensures.pure {post : α → Prop} {a : α} (h : post a) :
    Ensures post (pure a : StateM σ α) :=
  fun _ => h

theorem Ensures.bind {post : α → Prop} {post' : β → Prop} {x : StateM σ α} {f : α → StateM σ β}
    (hx : Ensures post x) (hf : ∀ a, post a → Ensures post' (f a)) : Ensures post' (x >>= f) :=
  fun s => hf _ (hx s) (after x s)

/-- Going on after a computation of which nothing is known. -/
theorem Ensures.bind_any {post : β → Prop} {x : StateM σ α} {f : α → StateM σ β}
    (hf : ∀ a, Ensures post (f a)) : Ensures post (x >>= f) :=
  fun s => hf _ (after x s)

end

/-- A relation between computations with two kinds of effects that respects single values and
sequences. -/
structure Correspondence (m n : Type → Type) [Monad m] [Monad n] where
  Rel : {α : Type} → m α → n α → Prop
  pure {α : Type} (a : α) : Rel (Pure.pure a) (Pure.pure a)
  bind {α β : Type} {x : m α} {y : n α} {f : α → m β} {g : α → n β} :
    Rel x y → (∀ a, Rel (f a) (g a)) → Rel (x >>= f) (y >>= g)

/-- A reading says which value a computation gives, whatever effects it has. -/
structure Reading (m : Type → Type) [Monad m] extends Correspondence m Id where
  unique {α : Type} {x : m α} {a b : α} : Rel x (Pure.pure a) → Rel x (Pure.pure b) → a = b

namespace Reading

/-- A computation without effects gives the value that it is. -/
def plain : Reading Id where
  Rel x y := x.run = y.run
  pure _ := rfl
  bind {_ _ x y f g} hx hf := by
    have hxy : x = y := hx
    subst hxy
    exact hf x
  unique ha hb := ha.symm.trans hb

/-- What computations give from every state in which an invariant holds, if they keep it. -/
def invariant {σ : Type} (inv : σ → Prop) (h : ∃ s, inv s) : Reading (StateM σ) where
  Rel x y := ∀ s, inv s → answer x s = y.run ∧ inv (after x s)
  pure _ _ hs := ⟨rfl, hs⟩
  bind {_ _ x y f g} hx hf s hs := by
    obtain ⟨hanswer, hafter⟩ := hx s hs
    rw [answer_bind, after_bind, hanswer]
    exact hf y.run _ hafter
  unique ha hb := by
    obtain ⟨s, hs⟩ := h
    exact (ha s hs).1.symm.trans (hb s hs).1

end Reading

variable {m n : Type → Type} [Monad m] [Monad n]

theorem Loader.rel_find? {R : Correspondence m n} {loader : Loader m} {other : Loader n}
    {name : String} (h : R.Rel (loader.resolve name) (other.resolve name)) :
    R.Rel (loader.find? name) (other.find? name) := by
  refine R.bind h fun answer => ?_
  rcases answer with (_ | _) | _ <;> exact R.pure _

/-- Two loaders correspond if their answers to every question do, where only some files are ever
asked for their types. -/
structure Loader.Corresponds (R : Correspondence m n) (asked : (path root : Path) → Prop)
    (loader : Loader m) (other : Loader n) : Prop where
  resolve (name : String) : R.Rel (loader.resolve name) (other.resolve name)
  declaredTypes {path root : Path} : asked path root →
    R.Rel (loader.declaredTypes path root) (other.declaredTypes path root)
  supertypeCount : R.Rel loader.supertypeCount other.supertypeCount

namespace Loader.Corresponds

/-- A loader without effects answers each question in one way only. -/
theorem plain (loader : Loader Id) (asked : (path root : Path) → Prop) :
    loader.Corresponds Reading.plain.toCorrespondence asked loader :=
  ⟨fun _ => rfl, fun _ => rfl, rfl⟩

variable {R : Correspondence m n} {asked : (path root : Path) → Prop}
variable {loader : Loader m} {other : Loader n}

theorem find? (h : loader.Corresponds R asked other) (name : String) :
    R.Rel (loader.find? name) (other.find? name) :=
  rel_find? (h.resolve name)

theorem reaches (h : loader.Corresponds R asked other) (target : String) (steps : Nat)
    (seen pending : List String) :
    R.Rel (loader.reaches target steps seen pending) (other.reaches target steps seen pending) := by
  induction steps generalizing seen pending with
  | zero => exact R.pure _
  | succ steps ih =>
    cases pending with
    | nil => exact R.pure _
    | cons name pending =>
      simp only [Loader.reaches]
      split
      · exact R.pure _
      · split
        · exact ih _ _
        · refine R.bind (h.find? name) fun found => ?_
          rcases found with _ | _ | parent
          · exact R.pure _
          · exact ih _ _
          · dsimp only
            split
            · exact R.pure _
            · exact ih _ _

theorem isAssignable (h : loader.Corresponds R asked other) (d : TypeDescriptor) (target : String) :
    R.Rel (loader.isAssignable d target) (other.isAssignable d target) := by
  simp only [Loader.isAssignable]
  split
  · exact R.pure _
  · exact R.bind h.supertypeCount fun count => h.reaches target _ _ _

theorem ancestorsFrom (h : loader.Corresponds R asked other) (steps : Nat)
    (seen queue : List String) :
    R.Rel (loader.ancestorsFrom steps seen queue) (other.ancestorsFrom steps seen queue) := by
  induction steps generalizing seen queue with
  | zero => exact R.pure _
  | succ steps ih =>
    cases queue with
    | nil => exact R.pure _
    | cons name queue =>
      simp only [Loader.ancestorsFrom]
      split
      · exact ih _ _
      · refine R.bind (h.find? name) fun found => ?_
        rcases found with _ | _ | parent
        · exact R.pure _
        · exact ih _ _
        · dsimp only
          split
          · exact ih _ _
          · exact R.bind (ih _ _) fun _ => R.pure _

theorem ancestors (h : loader.Corresponds R asked other) (d : TypeDescriptor) :
    R.Rel (loader.ancestors d) (other.ancestors d) :=
  R.bind h.supertypeCount fun _ => h.ancestorsFrom _ _ _

end Loader.Corresponds
end RetentionPlan.Loading
