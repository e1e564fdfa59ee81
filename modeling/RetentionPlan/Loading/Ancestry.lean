import RetentionPlan.Loading.Loader

/-!
# Ancestry

Two walks over the graph of supertypes. A supertype without a descriptor ends its branch, though
its name still counts when types are compared. Cycles are cut by remembering names.
-/
namespace RetentionPlan.Loading.Loader

variable {m : Type → Type} [Monad m]

/-- Looks for `target` among the names on the stack `pending` and above them. `seen` holds the
names that need no second look. -/
def reaches (loader : Loader m) (target : String) :
    Nat → (seen pending : List String) → m (Except Fault Bool)
  | 0, _, _ => return .ok false
  | _ + 1, _, [] => return .ok false
  | steps + 1, seen, name :: pending => do
    if name = target then return .ok true
    else if name ∈ seen then loader.reaches target steps seen pending
    else
      match ← loader.find? name with
      | .error e => return .error e
      | .ok none => loader.reaches target steps (name :: seen) pending
      | .ok (some parent) =>
        if parent.name = target then return .ok true
        else
          loader.reaches target steps (parent.name :: name :: seen)
            (parent.supertypes.reverse ++ pending)

/-- Is the type `target` itself, or does it inherit from it? -/
def isAssignable (loader : Loader m) (d : TypeDescriptor) (target : String) :
    m (Except Fault Bool) := do
  if d.name = target then return .ok true
  else
    let count ← loader.supertypeCount
    loader.reaches target (d.supertypes.length + count + 1) [d.name] d.supertypes.reverse

/-- The ancestors met from the names in `queue` on, breadth first. -/
def ancestorsFrom (loader : Loader m) : Nat → (seen queue : List String) → m (Found TypeDescriptor)
  | 0, _, _ => return .none
  | _ + 1, _, [] => return .none
  | steps + 1, seen, name :: queue => do
    if name ∈ seen then loader.ancestorsFrom steps seen queue
    else
      match ← loader.find? name with
      | .error e => return ⟨[], some e⟩
      | .ok none => loader.ancestorsFrom steps (name :: seen) queue
      | .ok (some parent) =>
        if parent.name ≠ name ∧ parent.name ∈ seen then
          loader.ancestorsFrom steps (name :: seen) queue
        else
          return .cons parent
            (← loader.ancestorsFrom steps (parent.name :: name :: seen)
              (queue ++ parent.supertypes))

/-- Every ancestor that has a descriptor, breadth first, each once. -/
def ancestors (loader : Loader m) (d : TypeDescriptor) : m (Found TypeDescriptor) := do
  let count ← loader.supertypeCount
  loader.ancestorsFrom (d.supertypes.length + count + 1) [d.name] d.supertypes

end RetentionPlan.Loading.Loader
