import RetentionPlan.Loading.Loader

/-!
# Graphs of types

A fixed collection of descriptors, in order of arrival. A type that arrives again takes the place of
its earlier self.
-/
namespace RetentionPlan

/-- Descriptors with distinct names. -/
structure TypeGraph where
  types : List TypeDescriptor
  names_nodup : (types.map (·.name)).Nodup := by simp

namespace TypeGraph

def empty : TypeGraph := { types := [] }

def find? (g : TypeGraph) (name : String) : Option TypeDescriptor := g.types.find? (·.name == name)

/-- Adds a type, or replaces the one of that name. -/
def add (g : TypeGraph) (d : TypeDescriptor) : TypeGraph :=
  if h : d.name ∈ g.types.map (·.name) then
    { types := g.types.map fun t => if t.name = d.name then d else t
      names_nodup := by
        have : (g.types.map fun t => if t.name = d.name then d else t).map (·.name) =
            g.types.map (·.name) := by
          rw [List.map_map]
          refine List.map_congr_left fun t _ => ?_
          by_cases ht : t.name = d.name <;> simp [ht]
        rw [this]
        exact g.names_nodup }
  else
    { types := g.types ++ [d]
      names_nodup := by
        rw [List.map_append]
        refine List.nodup_append.2 ⟨g.names_nodup, by simp, ?_⟩
        intro a ha b hb
        rw [List.map_cons, List.map_nil, List.mem_singleton] at hb
        exact fun e => h (hb ▸ e ▸ ha) }

/-- The graph of several types, added in order. -/
def ofList (ds : List TypeDescriptor) : TypeGraph := ds.foldl add empty

def size (g : TypeGraph) : Nat := g.types.length

def contains (g : TypeGraph) (name : String) : Bool := g.types.any (·.name == name)

/-- The names of the types that come from a file. -/
def declaredTypes (g : TypeGraph) (path : Path) : List String :=
  (g.types.filter (·.origin = some path.toString)).map (·.name)

/-- The number of supertypes that all types list. -/
def supertypeCount (g : TypeGraph) : Nat := (g.types.flatMap (·.supertypes)).length

def loader (g : TypeGraph) : Loading.Loader Id where
  resolve name := match g.find? name with
    | some d => .ok d
    | none => .error (.unresolved (.unknownType name))
  declaredTypes path _ := .ok (g.declaredTypes path)
  supertypeCount := g.supertypeCount

theorem name_of_find? {g : TypeGraph} {name : String} {d : TypeDescriptor}
    (h : g.find? name = some d) : d.name = name := by
  simpa using List.find?_some h

theorem find?_of_mem {g : TypeGraph} {d : TypeDescriptor} (h : d ∈ g.types) :
    g.find? d.name = some d := by
  unfold find?
  have hnodup := g.names_nodup
  generalize g.types = ts at h hnodup
  induction ts with
  | nil => simp at h
  | cons t ts ih =>
    rw [List.map_cons, List.nodup_cons] at hnodup
    rcases List.mem_cons.1 h with rfl | h
    · simp
    · have hne : t.name ≠ d.name := fun e => hnodup.1 (List.mem_map.2 ⟨d, h, e.symm⟩)
      simpa [hne] using ih h hnodup.2

end TypeGraph
end RetentionPlan
