/-!
# Trees of source modules

Only what types, their members and imports are read from: expressions keep names, attributes, calls,
subscripts, texts and displays, statements keep definitions, imports and assignments.
-/
namespace RetentionPlan.Source

inductive Expr where
  | name (id : String)
  | member (value : Expr) (name : String)
  | call (function : Expr)
  | subscript (value : Expr)
  | text (value : String)
  | tuple (items : List Expr)
  | list (items : List Expr)
  | set (items : List Expr)
  | starred (value : Expr)
  /-- Any other expression. -/
  | other
  deriving Repr, Inhabited

namespace Expr

def isSingleTarget : Expr → Bool
  | name _ | member .. | subscript _ => true
  | _ => false

mutual
/-- May the expression stand on the left of an assignment? -/
def isTarget : Expr → Bool
  | name _ | member .. | subscript _ => true
  | tuple items | list items => areTargets items
  | starred (starred _) => false
  | starred value => isTarget value
  | _ => false

/-- May all the expressions stand on the left of an assignment? -/
def areTargets : List Expr → Bool
  | [] => true
  | e :: rest => isTarget e && areTargets rest
end

mutual
def isDeletable : Expr → Bool
  | name _ | member .. | subscript _ => true
  | tuple items | list items => areDeletable items
  | _ => false

def areDeletable : List Expr → Bool
  | [] => true
  | e :: rest => isDeletable e && areDeletable rest
end

/-- The items of a display, or the expression itself. -/
def elements : Expr → List Expr
  | tuple items | list items | set items => items
  | e => [e]

end Expr

structure Parameters where
  positionalOnly : List String := []
  positional : List String := []
  /-- How many of the positional ones, counted from the last, have a default. -/
  defaults : Nat := 0
  /-- For every parameter that is given by keyword only, whether it has a default. -/
  keywordOnly : List Bool := []
  deriving DecidableEq, Repr

/-- An imported name and the name that it goes by, if that is another. -/
structure Alias where
  name : String
  as : Option String
  deriving DecidableEq, Repr

inductive Stmt where
  | function (name : String) (parameters : Parameters) (decorators : List Expr) (body : List Stmt)
  | type (name : String) (bases : List Expr) (keywords : List (String × Expr))
      (decorators : List Expr) (body : List Stmt)
  | assign (targets : List Expr) (value : Expr)
  | annotate (target : Expr)
  | augment (target : Expr)
  | importModules (names : List Alias)
  /-- Names from a module; `level` counts the leading dots. -/
  | importFrom (module : Option String) (level : Nat) (names : List Alias)
  /-- A compound statement, or a part of one that counts as a node of its own. -/
  | block (children : List Stmt)
  /-- Any other statement. -/
  | other
  deriving Repr, Inhabited

end RetentionPlan.Source
