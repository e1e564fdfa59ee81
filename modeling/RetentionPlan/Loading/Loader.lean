import RetentionPlan.Loading.Error
import RetentionPlan.Types.Descriptor

/-!
# Loaders

A loader answers for a qualified name with a descriptor, and for a source file with the names of
the types that it declares. A query may have an effect on the loader itself, such as remembering a
module; the effect is the parameter `m`, which is `Id` for a loader that is a fixed function.
-/
namespace RetentionPlan.Loading

/-- What turns names into descriptors. -/
structure Loader (m : Type → Type) where
  resolve : String → m (Except LoadError TypeDescriptor)
  /-- The qualified names of the types that the file `path` below `root` declares. -/
  declaredTypes : (path root : Path) → m (Except LoadError (List String))
  /-- At least the number of supertypes listed by all descriptors that the loader can give, each
  counted once for every name that stands for it in some list of supertypes. -/
  supertypeCount : m Nat

namespace Loader
variable {m : Type → Type} [Monad m]

def find? (loader : Loader m) (name : String) : m (Except Fault (Option TypeDescriptor)) := do
  match ← loader.resolve name with
  | .ok d => return .ok (some d)
  | .error (.unresolved _) => return .ok none
  | .error (.fault e) => return .error e

theorem resolve_of_find? {loader : Loader Id} {name : String} {d : TypeDescriptor}
    (h : (loader.find? name).run = .ok (some d)) : (loader.resolve name).run = .ok d := by
  simp only [find?, Id.run_bind] at h
  rcases hname : (loader.resolve name).run with (_ | _) | found <;> simp [hname] at h
  rw [h]

end Loader
end RetentionPlan.Loading
