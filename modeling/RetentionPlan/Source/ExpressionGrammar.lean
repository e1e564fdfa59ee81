import RetentionPlan.Source.Parse

/-!
# The grammar of expressions

Readers for expressions and their parts. Operators of all ranks are read as one chain: which operand
belongs to which operator makes no difference to names, attributes and calls. The number that every
reader gets bounds how deep and how far it reads.
-/
namespace RetentionPlan.Source

open Parse

/-- What the items of a list separated by commas are. -/
inductive Item where
  /-- An expression, or a starred operand. -/
  | plain
  /-- Like `plain`, but names may be assigned to inside. -/
  | named
  /-- A slice, an expression or a starred expression. -/
  | slice
  /-- Something that can be assigned to. -/
  | target
  deriving DecidableEq, Repr

inductive Argument where
  | positional (value : Expr)
  | named (name : String) (value : Expr)
  /-- Arguments taken from a collection. -/
  | spread
  deriving Repr

/-- Operators between two operands, comparisons apart. -/
def binaryOperators : List String :=
  ["|", "^", "&", "<<", ">>", "+", "-", "*", "/", "//", "%", "@", "**"]

def comparisonOperators : List String := ["==", "!=", "<", ">", "<=", ">="]

/-- Takes a comparison, which may be a keyword or two. -/
def comparison? : Parse Bool := do
  if ← oneOf comparisonOperators then return true
  if ← keyword? "in" then return true
  if ← keyword? "is" then
    let _ ← keyword? "not"
    return true
  match ← get with
  | .keyword "not" :: .keyword "in" :: rest =>
    set rest
    return true
  | _ => return false

/-- Takes the word that joins two conditions. -/
def connective? : Parse Bool := do
  if ← keyword? "and" then return true
  keyword? "or"

/-- Does a name follow that is assigned to inside an expression? -/
def atAssignment : Parse Bool := do
  match ← get with
  | .name _ _ :: .operator ":=" :: _ => return true
  | _ => return false

/-- What is known of the parameters read so far. -/
structure ParameterState where
  parameters : Parameters := {}
  /-- The mark that ends positional-only parameters has been read. -/
  slash : Bool := false
  /-- The mark that begins keyword-only parameters has been read. -/
  star : Bool := false
  /-- A bare mark has to be followed by a parameter. -/
  needsName : Bool := false

/-- Adds a parameter; positional ones without default may not follow one with. -/
def ParameterState.add (st : ParameterState) (id : String) (hasDefault : Bool) :
    Option ParameterState :=
  let ps := st.parameters
  if st.star then
    some { st with
      parameters := { ps with keywordOnly := ps.keywordOnly ++ [hasDefault] }, needsName := false }
  else if hasDefault then
    some { st with
      parameters := { ps with positional := ps.positional ++ [id], defaults := ps.defaults + 1 } }
  else if ps.defaults = 0 then
    some { st with parameters := { ps with positional := ps.positional ++ [id] } }
  else none

/-- Makes the parameters read so far positional-only. -/
def ParameterState.endPositionalOnly (st : ParameterState) : Option ParameterState :=
  let ps := st.parameters
  if st.slash || st.star || ps.positional.isEmpty then none
  else
    some { st with
      parameters := { ps with positionalOnly := ps.positional, positional := [] }, slash := true }

mutual
/-- A conditional expression, a function without name, or a chain of conditions. -/
def expression : Nat → Parse Expr
  | 0 => failure
  | fuel + 1 => do
    if ← keyword? "lambda" then
      let _ ← parameters fuel false {}
      operator ":"
      let _ ← expression fuel
      return .other
    let e ← disjunction fuel
    if ← keyword? "if" then
      let _ ← disjunction fuel
      keyword "else"
      let _ ← expression fuel
      return .other
    return e

def namedExpression : Nat → Parse Expr
  | 0 => failure
  | fuel + 1 => do
    if ← atAssignment then
      skip
      skip
      let _ ← expression fuel
      return .other
    let e ← expression fuel
    if ← atOperator ":=" then failure
    return e

def disjunction : Nat → Parse Expr
  | 0 => failure
  | fuel + 1 => do
    if ← keyword? "not" then
      let _ ← disjunction fuel
      return .other
    let e ← operation fuel
    let compared ← comparisons fuel
    if ← connective? then
      let _ ← disjunction fuel
      return .other
    return if compared then .other else e

/-- Further operands of a chain of comparisons; are there any? -/
def comparisons : Nat → Parse Bool
  | 0 => failure
  | fuel + 1 => do
    if ← comparison? then
      let _ ← operation fuel
      let _ ← comparisons fuel
      return true
    return false

def operation : Nat → Parse Expr
  | 0 => failure
  | fuel + 1 => do
    let e ← operand fuel
    if ← oneOf binaryOperators then
      let _ ← operation fuel
      return .other
    return e

def operand : Nat → Parse Expr
  | 0 => failure
  | fuel + 1 => do
    if ← oneOf ["+", "-", "~"] then
      let _ ← operand fuel
      return .other
    if ← keyword? "await" then
      let _ ← trailers fuel (← atom fuel)
      return .other
    trailers fuel (← atom fuel)

/-- Attributes, calls and subscripts of a value. -/
def trailers : Nat → Expr → Parse Expr
  | 0, _ => failure
  | fuel + 1, e => do
    if ← operator? "." then trailers fuel (.member e (← name))
    else if ← operator? "(" then
      let _ ← arguments fuel true true 0
      trailers fuel (.call e)
    else if ← operator? "[" then
      let _ ← items fuel .slice
      operator "]"
      trailers fuel (.subscript e)
    else return e

/-- A name, a constant or something in brackets. -/
def atom : Nat → Parse Expr
  | 0 => failure
  | fuel + 1 => do
    match ← peek with
    | some (.name id _) =>
      skip
      return .name id.text
    | some (.keyword word) =>
      if ["None", "True", "False"].contains word then
        skip
        return .other
      failure
    | some (.number _) =>
      skip
      return .other
    | some (.string _) => strings
    | some (.operator "...") =>
      skip
      return .other
    | some (.operator "(") =>
      skip
      parenthesised fuel
    | some (.operator "[") =>
      skip
      bracketed fuel
    | some (.operator "\x7b") =>
      skip
      braced fuel
    | _ => failure

/-- What follows an opening parenthesis: a tuple, a group or a generator. -/
def parenthesised : Nat → Parse Expr
  | 0 => failure
  | fuel + 1 => do
    if ← operator? ")" then return .tuple []
    if ← atKeyword "yield" then
      yielded fuel
      operator ")"
      return .other
    let first ← item fuel .named
    let isStarred := match first with
      | .starred _ => true
      | _ => false
    if ← operator? "," then
      let rest ← optional (items fuel .named)
      operator ")"
      return .tuple (first :: (rest.map (·.1)).getD [])
    if isStarred then failure
    if ← atComprehension then
      comprehension fuel
      operator ")"
      return .other
    operator ")"
    return first

def bracketed : Nat → Parse Expr
  | 0 => failure
  | fuel + 1 => do
    if ← operator? "]" then return .list []
    let first ← item fuel .named
    if ← atComprehension then
      if let .starred _ := first then failure
      comprehension fuel
      operator "]"
      return .other
    let rest ← if ← operator? "," then optional (items fuel .named) else pure none
    operator "]"
    return .list (first :: (rest.map (·.1)).getD [])

/-- What follows an opening brace: a mapping, a set or a comprehension of either. -/
def braced : Nat → Parse Expr
  | 0 => failure
  | fuel + 1 => do
    if ← operator? "\x7d" then return .other
    if ← operator? "**" then
      let _ ← operation fuel
      entries fuel
      return .other
    let assigned ← atAssignment
    let first ← item fuel .named
    let isStarred := match first with
      | .starred _ => true
      | _ => false
    let paired ← if assigned || isStarred then pure false else operator? ":"
    if paired then
      let _ ← expression fuel
      if ← atComprehension then
        comprehension fuel
        operator "\x7d"
      else entries fuel
      return .other
    if !isStarred && (← atComprehension) then
      comprehension fuel
      operator "\x7d"
      return .other
    let rest ← if ← operator? "," then optional (items fuel .named) else pure none
    operator "\x7d"
    return .set (first :: (rest.map (·.1)).getD [])

/-- Further entries of a mapping and the closing brace. -/
def entries : Nat → Parse Unit
  | 0 => failure
  | fuel + 1 => do
    if ← operator? "\x7d" then return
    operator ","
    if ← operator? "\x7d" then return
    if ← operator? "**" then
      let _ ← operation fuel
    else
      let _ ← expression fuel
      operator ":"
      let _ ← expression fuel
    entries fuel

def comprehension : Nat → Parse Unit
  | 0 => failure
  | fuel + 1 => do
    let _ ← keyword? "async"
    keyword "for"
    let _ ← items fuel .target
    keyword "in"
    let _ ← disjunction fuel
    conditions fuel
    if ← atComprehension then comprehension fuel

def conditions : Nat → Parse Unit
  | 0 => failure
  | fuel + 1 => do
    if ← keyword? "if" then
      let _ ← disjunction fuel
      conditions fuel

/-- One item of a list separated by commas. -/
def item : Nat → Item → Parse Expr
  | 0, _ => failure
  | fuel + 1, kind => do
    if ← operator? "*" then
      let e ← if kind = .slice then expression fuel else operation fuel
      if kind = .target && !(Expr.starred e).isTarget then failure
      return .starred e
    match kind with
    | .plain => expression fuel
    | .named => namedExpression fuel
    | .slice => slice fuel
    | .target =>
      let e ← operation fuel
      if e.isTarget then return e else failure

/-- Items separated by commas, one at the end being allowed; is there a comma? -/
def items : Nat → Item → Parse (List Expr × Bool)
  | 0, _ => failure
  | fuel + 1, kind => do
    let first ← item fuel kind
    if ← operator? "," then
      let rest ← optional (items fuel kind)
      return (first :: (rest.map (·.1)).getD [], true)
    return ([first], false)

def slice : Nat → Parse Expr
  | 0 => failure
  | fuel + 1 => do
    let assigned ← atAssignment
    let first ← if ← atOperator ":" then pure .other else namedExpression fuel
    if assigned then return .other
    if ← operator? ":" then
      bound fuel
      if ← operator? ":" then bound fuel
      return .other
    return first

/-- The end or the step of a slice, which may be missing. -/
def bound : Nat → Parse Unit
  | 0 => failure
  | fuel + 1 => do
    if (← atOperator ":") || (← atOperator ",") || (← atOperator "]") then return
    let _ ← expression fuel

/-- The arguments of a call and the closing parenthesis. A generator may stand alone if `generator`
is set. After a named argument (phase 1) no positional one may stand, after a spread mapping
(phase 2) no spread list either. -/
def arguments : Nat → (generator first : Bool) → (phase : Nat) → Parse (List Argument)
  | 0, _, _, _ => failure
  | fuel + 1, generator, first, phase => do
    if ← operator? ")" then return []
    let (argument, next) ← do
      if ← operator? "**" then
        let _ ← expression fuel
        pure (Argument.spread, 2)
      else if ← operator? "*" then
        if 1 < phase then failure
        let _ ← expression fuel
        pure (Argument.spread, phase)
      else
        match ← get with
        | .name id _ :: .operator "=" :: rest =>
          set rest
          pure (Argument.named id.text (← expression fuel), max phase 1)
        | _ =>
          if 0 < phase then failure
          let e ← namedExpression fuel
          if generator && first && (← atComprehension) then
            comprehension fuel
            if !(← atOperator ")") then failure
            pure (Argument.spread, phase)
          else pure (Argument.positional e, phase)
    if ← operator? "," then return argument :: (← arguments fuel generator false next)
    operator ")"
    return [argument]

/-- A value handed out by a generator. -/
def yielded : Nat → Parse Unit
  | 0 => failure
  | fuel + 1 => do
    keyword "yield"
    if ← keyword? "from" then
      let _ ← expression fuel
    else
      let _ ← optional (items fuel .plain)

/-- The parameters of a function up to the token that closes them, which stays. Only those of a
named function (`annotated`) may have annotations. -/
def parameters : Nat → (annotated : Bool) → ParameterState → Parse Parameters
  | 0, _, _ => failure
  | fuel + 1, annotated, st => do
    let closer := if annotated then ")" else ":"
    if ← atOperator closer then
      if st.needsName then failure
      return st.parameters
    if ← operator? "**" then
      if st.needsName then failure
      let _ ← name
      annotation fuel annotated false
      let _ ← operator? ","
      if !(← atOperator closer) then failure
      return st.parameters
    let st ← do
      if ← operator? "/" then (st.endPositionalOnly : Option ParameterState)
      else if ← operator? "*" then
        if st.star then failure
        if ← atOperator "," then pure { st with star := true, needsName := true }
        else
          let _ ← name
          annotation fuel annotated true
          pure { st with star := true }
      else
        let id ← name
        annotation fuel annotated false
        let hasDefault ← operator? "="
        if hasDefault then
          let _ ← expression fuel
        (st.add id hasDefault : Option ParameterState)
    if ← operator? "," then parameters fuel annotated st
    else if (← atOperator closer) && !st.needsName then return st.parameters
    else failure

/-- The annotation of a parameter, which may be starred for the one that takes the rest. -/
def annotation : Nat → (annotated starred : Bool) → Parse Unit
  | 0, _, _ => failure
  | fuel + 1, annotated, starred => do
    let present ← if annotated then operator? ":" else pure false
    if present then
      let _ ← if starred then item fuel .plain else expression fuel
end

/-- Expressions separated by commas, which make a tuple. -/
def expressions (fuel : Nat) : Parse Expr := do
  let (es, comma) ← items fuel .plain
  match es, comma with
  | [e], false => return e
  | es, _ => return .tuple es

/-- A value to be assigned: expressions, or what a generator is given back. -/
def assignedValue (fuel : Nat) : Parse Expr := do
  if ← atKeyword "yield" then
    yielded fuel
    return .other
  expressions fuel

end RetentionPlan.Source
