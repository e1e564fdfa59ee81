/-!
# Marks on objects

Objects of a running program can be tagged with markers. A class passes its markers on to its
subclasses and instances until they get a list of their own; a new mark starts from the inherited
list. Classes are looked through in a linear order in which every class stands before its bases and
the bases in the order given.
-/
namespace RetentionPlan.Markers

inductive Marker where
  | reflective
  | injectable
  deriving DecidableEq, Repr

def Marker.text : Marker → String
  | reflective => "regplan.markers.reflective"
  | injectable => "regplan.markers.injectable"

/-- Reads a marker's short name. -/
def Marker.ofText? : String → Option Marker
  | "reflective" => some .reflective
  | "injectable" => some .injectable
  | _ => none

/-- What an object is. Classes are numbered by their place among all objects. -/
inductive Shape where
  /-- A class with its ancestors in the order of lookup, itself first. -/
  | type (order : List Nat)
  | function
  /-- An instance with the order of its class. -/
  | instance (order : List Nat)
  /-- An object that has no room for attributes. -/
  | plain
  deriving DecidableEq, Repr

/-- An object and the list of marks set on the object itself. -/
structure Object where
  id : String
  shape : Shape
  own : Option (List Marker) := none
  deriving DecidableEq, Repr

/-- Why an object cannot be made or tagged. -/
inductive MarkerError where
  /-- The bases of a class cannot be brought into one order, or are no classes. -/
  | badBases
  | noRoom
  deriving DecidableEq, Repr

/-- A head that stands in no tail, from the first list that has one. -/
def goodHead (lists : List (List Nat)) : Option Nat :=
  (lists.filterMap List.head?).find? fun head => lists.all fun l => !l.tail.contains head

/-- Merges orders, keeping each of them; `fuel` is at least the number of entries. -/
def mergeOrders : Nat → List (List Nat) → Option (List Nat)
  | 0, lists => if lists.all List.isEmpty then some [] else none
  | fuel + 1, lists =>
    if lists.all List.isEmpty then some []
    else do
      let head ← goodHead lists
      let rest ← mergeOrders fuel (lists.map fun l => if l.head? = some head then l.tail else l)
      return head :: rest

/-- The order of lookup of a new class over bases with the given orders. -/
def linearOrder (self : Nat) (bases : List (List Nat)) : Option (List Nat) :=
  let heads := bases.filterMap List.head?
  if heads.Nodup then
    (mergeOrders (bases.flatten.length + heads.length + 1) (bases ++ [heads])).map (self :: ·)
  else none

/-- All objects in the order in which they were made. A later object takes over an earlier one's
id. -/
abbrev World := List Object

namespace World

def place? (w : World) (id : String) : Option Nat :=
  ((w.zipIdx.filter fun (o, _) => o.id = id).getLast?).map (·.2)

/-- The marks that are found on an object: its own, or those of the first class in its order that
has any. -/
def marksOf (w : World) (o : Object) : List Marker :=
  let order := match o.shape with
    | .type order => order
    | .instance order => order
    | _ => []
  match o.own with
  | some marks => marks
  | none => (order.findSome? fun k => (w[k]?).bind (·.own)).getD []

/-- Makes a class over the objects that `bases` stand for. -/
def addType (w : World) (id : String) (bases : List String) : Except MarkerError World :=
  let orders := bases.mapM fun base =>
    match (w.place? base).bind (w[·]?) with
    | some ⟨_, .type order, _⟩ => some order
    | _ => none
  match orders.bind (linearOrder w.length) with
  | some order => .ok (w ++ [⟨id, .type order, none⟩])
  | none => .error .badBases

/-- Makes an instance of the class that `type` stands for. -/
def addInstance (w : World) (id type : String) : Except MarkerError World :=
  match (w.place? type).bind (w[·]?) with
  | some ⟨_, .type order, _⟩ => .ok (w ++ [⟨id, .instance order, none⟩])
  | _ => .error .badBases

def addFunction (w : World) (id : String) : World := w ++ [⟨id, .function, none⟩]

/-- Makes an object without room for attributes. -/
def addPlain (w : World) (id : String) : World := w ++ [⟨id, .plain, none⟩]

/-- Tags the object at a place, unless the marker is already found on it. -/
def tag (w : World) (k : Nat) (marker : Marker) : Except MarkerError World :=
  match w[k]? with
  | none => .ok w
  | some o =>
    let marks := w.marksOf o
    if marker ∈ marks then .ok w
    else if o.shape = .plain then .error .noRoom
    else .ok (w.set k { o with own := some (marks ++ [marker]) })

/-- The marks of all objects by id, in the order of the ids' first objects. -/
def marks (w : World) : List (String × List Marker) :=
  (w.zipIdx.filter fun (o, k) => w.place? o.id = some k).map fun (o, _) => (o.id, w.marksOf o)

end World
end RetentionPlan.Markers
