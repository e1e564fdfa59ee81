import RetentionPlan.Source.ExpressionGrammar
import RetentionPlan.Source.Lexer
import RetentionPlan.Source.PatternGrammar

/-!
# The grammar of statements

Readers for the statements of a line, for compound statements with their blocks, and for a whole
module. A part of a compound statement that holds statements of its own (a handler, a case, a
further condition) is a block inside the block of the statement.
-/
namespace RetentionPlan.Source

open Parse

/-- Takes something if it comes next. -/
def optionally {α : Type} (reader : Parse α) : Parse Unit := do
  let _ ← optional reader

/-- Names joined by dots. -/
def dottedName : Nat → Parse String
  | 0 => failure
  | fuel + 1 => do
    let first ← name
    if ← operator? "." then return first ++ "." ++ (← dottedName fuel)
    return first

def renamed (imported : String) : Parse Alias := do
  if ← keyword? "as" then return ⟨imported, some (← name)⟩
  return ⟨imported, none⟩

def importedModules : Nat → Parse (List Alias)
  | 0 => failure
  | fuel + 1 => do
    let first ← renamed (← dottedName fuel)
    if ← operator? "," then return first :: (← importedModules fuel)
    return [first]

/-- Names to import from a module; a comma may end them only inside parentheses. -/
def importedNames : Nat → (enclosed : Bool) → Parse (List Alias)
  | 0, _ => failure
  | fuel + 1, enclosed => do
    let first ← renamed (← name)
    if ← operator? "," then
      if enclosed && (← atOperator ")") then return [first]
      return first :: (← importedNames fuel enclosed)
    return [first]

/-- The dots before the name of a module. -/
def leadingDots : Nat → Parse Nat
  | 0 => failure
  | fuel + 1 => do
    if ← operator? "..." then return (← leadingDots fuel) + 3
    if ← operator? "." then return (← leadingDots fuel) + 1
    return 0

/-- An import of names, after its first word. -/
def importedFrom (fuel : Nat) : Parse Stmt := do
  let level ← leadingDots fuel
  let module ←
    if 0 < level && (← atKeyword "import") then pure none
    else some <$> dottedName fuel
  keyword "import"
  if ← operator? "*" then return .importFrom module level [⟨"*", none⟩]
  if ← operator? "(" then
    let names ← importedNames fuel true
    operator ")"
    return .importFrom module level names
  return .importFrom module level (← importedNames fuel false)

def names : Nat → Parse Unit
  | 0 => failure
  | fuel + 1 => do
    let _ ← name
    if ← operator? "," then names fuel

/-- What is assigned, to each of several targets if equals signs follow one another. -/
def assignment : Nat → (targets : List Expr) → Parse Stmt
  | 0, _ => failure
  | fuel + 1, targets => do
    operator "="
    let value ← assignedValue fuel
    if ← atOperator "=" then
      if value.isTarget then assignment fuel (targets ++ [value]) else failure
    else return .assign targets value

def expressionStatement (fuel : Nat) : Parse Stmt := do
  let e ← expressions fuel
  if ← operator? ":" then
    if !e.isSingleTarget then failure
    let _ ← expression fuel
    if ← operator? "=" then
      let _ ← assignedValue fuel
    return .annotate e
  if ← atOperator "=" then
    if e.isTarget then return ← assignment fuel [e]
    failure
  if ← oneOf augmentedOperators then
    if !e.isSingleTarget then failure
    let _ ← assignedValue fuel
    return .augment e
  return .other

def simpleStatement (fuel : Nat) : Parse Stmt := do
  let word ← match ← peek with
    | some (.keyword word) => pure word
    | _ => pure ""
  if ["return", "raise", "pass", "break", "continue", "import", "from", "del", "assert", "global",
      "nonlocal"].contains word then skip
  match word with
  | "import" => return .importModules (← importedModules fuel)
  | "from" => importedFrom fuel
  | "pass" | "break" | "continue" => return .other
  | "return" =>
    optionally (expressions fuel)
    return .other
  | "raise" =>
    if (← optional (expression fuel)).isSome then
      if ← keyword? "from" then
        let _ ← expression fuel
    return .other
  | "del" =>
    let (targets, _) ← items fuel .plain
    if Expr.areDeletable targets then return .other
    failure
  | "assert" =>
    let _ ← expression fuel
    if ← operator? "," then
      let _ ← expression fuel
    return .other
  | "global" | "nonlocal" =>
    names fuel
    return .other
  | "yield" =>
    yielded fuel
    return .other
  | _ => expressionStatement fuel

def simpleLine : Nat → Parse (List Stmt)
  | 0 => failure
  | fuel + 1 => do
    let first ← simpleStatement fuel
    if ← operator? ";" then
      if (← peek) == some .newline then
        skip
        return [first]
      return first :: (← simpleLine fuel)
    token .newline
    return [first]

def contextItem (fuel : Nat) : Parse Unit := do
  let _ ← expression fuel
  if ← keyword? "as" then
    let _ ← item fuel .target
    if !((← atOperator ",") || (← atOperator ")") || (← atOperator ":")) then failure

/-- Contexts separated by commas; one may end them only inside parentheses. -/
def contextItems : Nat → (enclosed : Bool) → Parse Unit
  | 0, _ => failure
  | fuel + 1, enclosed => do
    contextItem fuel
    if ← operator? "," then
      if !(enclosed && (← atOperator ")")) then contextItems fuel enclosed

/-- The contexts of a statement up to its colon, which stays. -/
def contexts (fuel : Nat) : Parse Unit :=
  (do
    operator "("
    contextItems fuel true
    operator ")"
    if !(← atOperator ":") then failure) <|>
  contextItems fuel false

/-- The bases and keywords among the arguments of a class. -/
def Argument.split : List Argument → List Expr × List (String × Expr)
  | [] => ([], [])
  | a :: rest =>
    let (bases, assigned) := split rest
    match a with
    | .positional e => (e :: bases, assigned)
    | .named id e => (bases, (id, e) :: assigned)
    | .spread => (bases, assigned)

def decorators : Nat → Parse (List Expr)
  | 0 => failure
  | fuel + 1 => do
    if ← operator? "@" then
      let e ← namedExpression fuel
      token .newline
      return e :: (← decorators fuel)
    return []

/-- What a matched value is: an expression or several. -/
def subject (fuel : Nat) : Parse Unit := do
  let (es, comma) ← items fuel .named
  if let ([.starred _], false) := (es, comma) then failure

mutual
/-- A compound statement, or the statements of a line. -/
def statement : Nat → Parse (List Stmt)
  | 0 => failure
  | fuel + 1 => do
    match ← get with
    | .operator "@" :: _ => return [← definition fuel (← decorators fuel)]
    | .keyword "async" :: .keyword "def" :: _ => return [← definition fuel []]
    | .keyword "async" :: .keyword word :: rest =>
      if word = "for" || word = "with" then
        set (Token.keyword word :: rest)
        statement fuel
      else failure
    | .keyword word :: _ =>
      if word = "def" || word = "class" then return [← definition fuel []]
      if word = "if" then
        skip
        return [← conditional fuel]
      if word = "while" then
        skip
        let _ ← namedExpression fuel
        let body ← suite fuel
        return [.block (body ++ (← alternative fuel))]
      if word = "for" then
        skip
        let _ ← items fuel .target
        keyword "in"
        let _ ← expressions fuel
        let body ← suite fuel
        return [.block (body ++ (← alternative fuel))]
      if word = "with" then
        skip
        contexts fuel
        return [.block (← suite fuel)]
      if word = "try" then
        skip
        return [← guarded fuel]
      simpleLine fuel
    | .name ⟨"match", _⟩ true :: _ =>
      (do
        skip
        subject fuel
        operator ":"
        token .newline
        token .indent
        let cases ← cases fuel
        token .dedent
        return [.block cases]) <|>
      simpleLine fuel
    | _ => simpleLine fuel

/-- Statements up to the end of their block. -/
def statements : Nat → Parse (List Stmt)
  | 0 => failure
  | fuel + 1 => do
    match ← peek with
    | none | some .dedent => return []
    | _ => return (← statement fuel) ++ (← statements fuel)

/-- A colon and the statements after it, on the same line or in a block. -/
def suite : Nat → Parse (List Stmt)
  | 0 => failure
  | fuel + 1 => do
    operator ":"
    if (← peek) == some .newline then
      skip
      token .indent
      let body ← statements fuel
      token .dedent
      return body
    simpleLine fuel

def definition : Nat → List Expr → Parse Stmt
  | 0, _ => failure
  | fuel + 1, decorated => do
    if ← keyword? "class" then
      let id ← identifier
      let (bases, keywords) ←
        if ← operator? "(" then Argument.split <$> arguments fuel false true 0 else pure ([], [])
      return .type id.text bases keywords decorated (← suite fuel)
    let _ ← keyword? "async"
    keyword "def"
    let id ← name
    operator "("
    let ps ← parameters fuel true {}
    operator ")"
    if ← operator? "->" then
      let _ ← expression fuel
    return .function id ps decorated (← suite fuel)

/-- A condition and its block, after the first word. A further condition is the only statement of
the alternative. -/
def conditional : Nat → Parse Stmt
  | 0 => failure
  | fuel + 1 => do
    let _ ← namedExpression fuel
    let body ← suite fuel
    if ← keyword? "elif" then return .block (body ++ [← conditional fuel])
    return .block (body ++ (← alternative fuel))

def alternative : Nat → Parse (List Stmt)
  | 0 => failure
  | fuel + 1 => do
    if ← keyword? "else" then suite fuel else return []

/-- A guarded block with its handlers, after the first word. -/
def guarded : Nat → Parse Stmt
  | 0 => failure
  | fuel + 1 => do
    let body ← suite fuel
    let grouped ← match ← get with
      | .keyword "except" :: .operator "*" :: _ => pure true
      | _ => pure false
    let handlers ← handlers fuel grouped
    if handlers.isEmpty then
      keyword "finally"
      return .block (body ++ (← suite fuel))
    let otherwise ← alternative fuel
    let final ← if ← keyword? "finally" then suite fuel else pure []
    return .block (body ++ handlers ++ otherwise ++ final)

/-- The handlers of a guarded block, all with a star or none. -/
def handlers : Nat → (grouped : Bool) → Parse (List Stmt)
  | 0, _ => failure
  | fuel + 1, grouped => do
    if ← keyword? "except" then
      if grouped then operator "*"
      if grouped || !(← atOperator ":") then
        let _ ← expression fuel
        if ← keyword? "as" then
          let _ ← name
      let body ← suite fuel
      return .block body :: (← handlers fuel grouped)
    return []

def cases : Nat → Parse (List Stmt)
  | 0 => failure
  | fuel + 1 => do
    token (.name ⟨"case", by decide⟩ true)
    openPattern fuel
    if ← keyword? "if" then
      let _ ← namedExpression fuel
    let body ← suite fuel
    if (← peek) == some .dedent then return [.block body]
    return .block body :: (← cases fuel)
end

/-- The bound within which `n` tokens are read. -/
def readingBound (n : Nat) : Nat := 16 * (n + 4)

/-- Do the expressions inside formatted strings have a form? The number bounds how deep they
nest. -/
def formattedFit : Nat → List Token → Bool
  | 0, _ => false
  | fuel + 1, tokens =>
    tokens.all fun t => match t with
      | .string (.formatted es) =>
        es.all fun e => match tokensOf? ('(' :: (e ++ [')'])) with
          | none => false
          | some inner =>
            ((expressions (readingBound inner.length)).run inner).isSome && formattedFit fuel inner
      | _ => true

/-- The statements of a module's text; none if it does not follow the grammar. -/
def statementsOf? (text : String) : Option (List Stmt) := do
  let tokens ← tokensOf? text.toList
  let (tree, rest) ← (statements (readingBound tokens.length)).run tokens
  if rest.isEmpty && formattedFit (text.length + 1) tokens then return tree
  none

end RetentionPlan.Source
