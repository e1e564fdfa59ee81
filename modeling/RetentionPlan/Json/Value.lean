import RetentionPlan.Number.Binary64

/-!
# JSON values
-/
namespace RetentionPlan

/-- A JSON value. The fields of an object keep the order of the text, repeated names included. -/
inductive Json where
  | null
  | bool (b : Bool)
  | int (n : Int)
  | float (x : Binary64)
  | text (s : String)
  | array (items : List Json)
  | object (fields : List (String × Json))
  deriving Repr, Inhabited

namespace Json

/-- The value of a field; of several with one name the last counts. -/
def field? (name : String) : Json → Option Json
  | object fields => (fields.findRev? (·.1 = name)).map (·.2)
  | _ => none

def text? : Json → Option String
  | text s => some s
  | _ => none

end Json
end RetentionPlan
