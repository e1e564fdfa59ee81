import RetentionPlan.Number.Binary64

/-!
# Values of field streams

Values that a caller may offer for writing, and the part of them that reading gives back. Two values
are the same when they are equal as numbers, texts or collections; truth values count as the numbers
0 and 1.
-/
namespace RetentionPlan.FieldStream

inductive Value where
  | null
  | bool (b : Bool)
  | int (n : Int)
  | float (x : Binary64)
  /-- A text of whole characters. One with half of a surrogate pair, which cannot be written, is
  left out. -/
  | text (s : String)
  | bytes (bs : List UInt8)
  | list (items : List Value)
  | tuple (items : List Value)
  | set (items : List Value)
  | frozenSet (items : List Value)
  /-- The empty mapping. One with entries, which counts as true and is a collection of its keys, is
  left out. -/
  | mapping
  deriving Repr, Inhabited

namespace Value

def kindText : Value → String
  | null => "NoneType"
  | bool _ => "bool"
  | int _ => "int"
  | float _ => "float"
  | text _ => "str"
  | bytes _ => "bytes"
  | list _ => "list"
  | tuple _ => "tuple"
  | set _ => "set"
  | frozenSet _ => "frozenset"
  | mapping => "dict"

/-- Does the value count as true? Zero, emptiness and nothing do not. -/
def isTruthy : Value → Bool
  | null => false
  | bool b => b
  | int n => n ≠ 0
  | float x => !x.isZero
  | text s => s ≠ ""
  | bytes bs => !bs.isEmpty
  | list items | tuple items | set items | frozenSet items => !items.isEmpty
  | mapping => false

/-- The number that a truth value counts as. -/
def boolInt (b : Bool) : Int := if b then 1 else 0

mutual
def same : Value → Value → Bool
  | null, null => true
  | bool a, bool b => a == b
  | bool a, int b => boolInt a == b
  | bool a, float y => y.isInteger (boolInt a)
  | int a, bool b => a == boolInt b
  | int a, int b => a == b
  | int a, float y => y.isInteger a
  | float x, bool b => x.isInteger (boolInt b)
  | float x, int b => x.isInteger b
  | float x, float y => x.sameValue y
  | text a, text b => a == b
  | bytes a, bytes b => a == b
  | list as, list bs => sameItems as bs
  | tuple as, tuple bs => sameItems as bs
  | set as, set bs => as.length == bs.length && sameMembers as bs
  | set as, frozenSet bs => as.length == bs.length && sameMembers as bs
  | frozenSet as, set bs => as.length == bs.length && sameMembers as bs
  | frozenSet as, frozenSet bs => as.length == bs.length && sameMembers as bs
  | mapping, mapping => true
  | _, _ => false

/-- Are two lists the same, place by place? -/
def sameItems : List Value → List Value → Bool
  | [], [] => true
  | a :: as, b :: bs => same a b && sameItems as bs
  | _, _ => false

/-- Is every value of the first list the same as one of the second? -/
def sameMembers : List Value → List Value → Bool
  | [], _ => true
  | a :: as, bs => bs.any (same a) && sameMembers as bs
end

mutual
/-- May the value be a member of a set? Lists, sets and mappings may not, nor what holds them. -/
def isHashable : Value → Bool
  | list _ | set _ | mapping => false
  | tuple items => allHashable items
  | _ => true

/-- May all the values be members of a set? -/
def allHashable : List Value → Bool
  | [] => true
  | a :: as => isHashable a && allHashable as
end

/-- Adds a value to the members of a set; the first of several that are the same stays. -/
def insertInto (members : List Value) (v : Value) : List Value :=
  if members.any (same v) then members else members ++ [v]

/-- Adds several values. -/
def insertAll (members vs : List Value) : List Value := vs.foldl insertInto members

end Value
end RetentionPlan.FieldStream
