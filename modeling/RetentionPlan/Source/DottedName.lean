/-!
# Dotted names

A qualified name is cut at its dots. Where the cut between a module and a name inside it lies cannot
be told from the name alone, so all cuts are listed.
-/
namespace RetentionPlan.Source

def dottedParts (name : String) : List String := (name.toList.splitOn '.').map String.ofList

def dotted (parts : List String) : String := String.intercalate "." parts

/-- A name up to its first dot, and what follows that dot, empty if there is none. -/
def headAndRest (name : String) : String × String :=
  match dottedParts name with
  | [] => (name, "")
  | head :: rest => (head, dotted rest)

/-- A name up to its last dot, empty if there is none. -/
def beforeLastDot (name : String) : String := dotted (dottedParts name).dropLast

/-- The ways to cut a name into that of a module and that of something inside, the longest module
first. -/
def cuts (name : String) : List (String × String) :=
  let parts := dottedParts name
  (List.range (parts.length - 1)).reverse.map fun k =>
    (dotted (parts.take (k + 1)), dotted (parts.drop (k + 1)))

end RetentionPlan.Source
