import RetentionPlan.Source.Token
import RetentionPlan.Source.Tree

/-!
# Reading tokens

A reader takes tokens from the head of a list or fails. Readers for single tokens, and for the
string literals that stand side by side and make one text.
-/
namespace RetentionPlan.Source

abbrev Parse (α : Type) := StateT (List Token) Option α

namespace Parse

def peek : Parse (Option Token) := do return (← get).head?

def atOperator (symbol : String) : Parse Bool := do return (← peek) == some (.operator symbol)

def atKeyword (word : String) : Parse Bool := do return (← peek) == some (.keyword word)

/-- Drops the next token. -/
def skip : Parse Unit := modify List.tail

/-- Takes the operator if it comes next. -/
def operator? (symbol : String) : Parse Bool := do
  if ← atOperator symbol then
    skip
    return true
  return false

/-- Takes the keyword if it comes next. -/
def keyword? (word : String) : Parse Bool := do
  if ← atKeyword word then
    skip
    return true
  return false

def operator (symbol : String) : Parse Unit := do
  if !(← operator? symbol) then failure

def keyword (word : String) : Parse Unit := do
  if !(← keyword? word) then failure

/-- Takes one of several operators. -/
def oneOf (symbols : List String) : Parse Bool := do
  match ← peek with
  | some (.operator symbol) =>
    if symbols.contains symbol then
      skip
      return true
    return false
  | _ => return false

/-- Takes a token that must be the given one. -/
def token (t : Token) : Parse Unit := do
  if (← peek) == some t then skip else failure

def identifier : Parse Identifier := do
  match ← get with
  | .name id _ :: rest =>
    set rest
    return id
  | _ => failure

def name : Parse String := do return (← identifier).text

def atComprehension : Parse Bool := do return (← atKeyword "for") || (← atKeyword "async")

def leadingLiterals : List Token → List Literal
  | .string l :: rest => l :: leadingLiterals rest
  | _ => []

/-- The expression that adjacent literals make: a text if all of them are, and no mixture of bytes
and others. -/
def joinLiterals (literals : List Literal) : Option Expr :=
  let bytes := literals.map (· == .bytes)
  if literals = [] then none
  else if bytes.all id then some .other
  else if bytes.any id then none
  else
    let texts := literals.mapM fun l => match l with
      | .text s => some s
      | _ => none
    some (texts.elim .other fun ss => .text (String.join ss))

/-- Takes the string literals that come next. -/
def strings : Parse Expr := do
  let literals := leadingLiterals (← get)
  modify (·.drop literals.length)
  joinLiterals literals

end Parse
end RetentionPlan.Source
