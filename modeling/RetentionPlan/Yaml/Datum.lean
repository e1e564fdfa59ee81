import RetentionPlan.Number.Binary64
import RetentionPlan.Yaml.Error
import RetentionPlan.Yaml.Moment

/-!
# Values of YAML documents

A value that stands at several places of a document, or within itself, is one value, so collections
hold the numbers of their parts. Whatever looks at values takes the reader that finds them as a
parameter.
-/
namespace RetentionPlan.Yaml

/-- A value. Parts of collections are given by number. -/
inductive Datum where
  | null
  | bool (b : Bool)
  | int (n : Int)
  | float (x : Binary64)
  /-- A text of whole characters, without halves of surrogate pairs. -/
  | text (s : String)
  | bytes (bs : List UInt8)
  | moment (m : Moment)
  | sequence (items : List Nat)
  /-- The entries are in order, and a key may stand more than once. -/
  | pairs (entries : List (Nat × Nat))
  | set (members : List Nat)
  | mapping (entries : List (Nat × Nat))
  deriving Repr

def Datum.isKey : Datum → Bool
  | .sequence _ | .pairs _ | .set _ | .mapping _ => false
  | _ => true

structure Document where
  data : Array (Option Datum)
  root : Datum

namespace Document

def part (d : Document) (i : Nat) : Datum := (d.data[i]?.join).getD .null

/-- The value of a textual key among the entries of a mapping; the last entry counts. -/
def lookup? (d : Document) (entries : List (Nat × Nat)) (key : String) : Option Datum :=
  let isKey := fun (entry : Nat × Nat) => match d.part entry.1 with
    | .text s => s = key
    | _ => false
  (entries.reverse.find? isKey).map fun entry => d.part entry.2

end Document

/-- What makes values of the only document of a text. A text without one has no value. -/
abbrev Reader := String → Except Error (Option Document)

end RetentionPlan.Yaml
