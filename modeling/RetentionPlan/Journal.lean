/-!
# The journal of a run

Every step of a run leaves records: a level, the area that speaks, and a text. Where they are shown
is no concern of the steps.
-/
namespace RetentionPlan

/-- How much a record matters. -/
inductive Level where
  | debug
  | info
  | warning
  | error
  | critical
  deriving DecidableEq, Repr

namespace Level

def number : Level → Nat
  | debug => 10
  | info => 20
  | warning => 30
  | error => 40
  | critical => 50

def text : Level → String
  | debug => "DEBUG"
  | info => "INFO"
  | warning => "WARNING"
  | error => "ERROR"
  | critical => "CRITICAL"

/-- All levels, ascending. -/
def all : List Level := [debug, info, warning, error, critical]

def ofText? (word : String) : Option Level := all.find? (·.text == word)

end Level

/-- The name of the whole program among areas. -/
def programName : String := "regplan"

/-- The full name of an area; the empty one is the program itself. -/
def areaName (area : String) : String :=
  if area = "" then programName else programName ++ "." ++ area

structure Record where
  level : Level
  /-- The area below the program's own name. -/
  area : String
  text : String
  deriving DecidableEq, Repr

/-- Records in the order in which they were left. -/
abbrev Journal := List Record

/-- A text marked with the phase that speaks; an empty phase leaves no mark. -/
def phaseText (phase text : String) : String :=
  if phase = "" then text else s!"[{phase}] {text}"

end RetentionPlan
