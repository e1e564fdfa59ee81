import RetentionPlan.Registration.Bulk

/-!
# Reachable types and decisions

Types that the analysis reports are registered for serialization the first time they are seen.
Decisions name a type and the rule that kept it; each is held once.
-/
namespace RetentionPlan

/-- The record of a rule that kept a type. -/
structure Decision where
  reason : String
  type : String
  deriving DecidableEq, Repr

namespace Decision

/-- Does `a` stand before `b`, or at the same place? Types are compared before reasons. -/
def before (a b : Decision) : Bool :=
  if a.type = b.type then !decide (b.reason < a.reason) else decide (a.type < b.type)

/-- Decisions by type and then by reason. -/
def sorted (ds : List Decision) : List Decision := ds.mergeSort before

end Decision

/-- What the handler of reachable types works on. -/
structure Reached where
  seen : Distinct String := .empty
  register : Registration.Register := {}

namespace Reached

/-- Takes note of a type that became reachable. Only the first note of a type has an effect; the
answer says whether this was it. -/
def note (r : Reached) (d : TypeDescriptor) : Bool × Reached :=
  match r.seen.insertNew d.name with
  | (false, _) => (false, r)
  | (true, seen) =>
    let text := s!"Type {d.name} became reachable; registering for serialization"
    (true, { seen, register :=
      { sink := r.register.sink.registerSerialization d
        journal := r.register.journal ++ [⟨.debug, "reachability", text⟩] } })

theorem note_of_mem {r : Reached} {d : TypeDescriptor} (h : d.name ∈ r.seen) :
    r.note d = (false, r) := by
  simp [note, Distinct.insertNew, h]

end Reached
end RetentionPlan
