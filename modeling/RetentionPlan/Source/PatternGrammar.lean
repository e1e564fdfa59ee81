import RetentionPlan.Source.Parse

/-!
# The grammar of patterns

Readers for the patterns of a case. A pattern binds names and compares with constants; neither takes
part in what is known of a module, so the readers only say whether a pattern stands there.
-/
namespace RetentionPlan.Source

open Parse

/-- Takes a number; is it imaginary? -/
def patternNumber : Parse Bool := do
  match ← get with
  | .number imaginary :: rest =>
    set rest
    return imaginary
  | _ => failure

/-- A number with an optional sign, or a real one and an imaginary one joined by a sign. -/
def signedNumber : Parse Unit := do
  let _ ← operator? "-"
  let imaginary ← patternNumber
  if ← oneOf ["+", "-"] then
    if imaginary then failure
    if !(← patternNumber) then failure

/-- A constant: a number, texts, or one of three keywords. -/
def constantPattern : Parse Unit := do
  match ← peek with
  | some (.number _) | some (.operator "-") => signedNumber
  | some (.string _) =>
    let _ ← strings
  | some (.keyword word) => if ["None", "True", "False"].contains word then skip else failure
  | _ => failure

/-- Does something follow that a name alone cannot stand before? -/
def atNameSuffix : Parse Bool := do
  return (← atOperator ".") || (← atOperator "(") || (← atOperator "=")

/-- A name that the matched value is bound to. -/
def capturePattern : Parse Unit := do
  match ← peek with
  | some (.name ⟨"_", _⟩ true) => failure
  | some (.name _ _) =>
    skip
    if ← atNameSuffix then failure
  | _ => failure

/-- The name after a star, which may be the one that binds nothing. -/
def starName : Parse Unit := do
  match ← peek with
  | some (.name ⟨"_", _⟩ true) => skip
  | _ => capturePattern

/-- Names joined by dots; are there two or more? -/
def dottedPattern : Nat → Parse Bool
  | 0 => failure
  | fuel + 1 => do
    let _ ← name
    if ← operator? "." then
      let _ ← dottedPattern fuel
      return true
    return false

mutual
def pattern : Nat → Parse Unit
  | 0 => failure
  | fuel + 1 => do
    alternatives fuel
    if ← keyword? "as" then capturePattern

def alternatives : Nat → Parse Unit
  | 0 => failure
  | fuel + 1 => do
    closedPattern fuel
    if ← operator? "|" then alternatives fuel

def closedPattern : Nat → Parse Unit
  | 0 => failure
  | fuel + 1 => do
    match ← peek with
    | some (.name ⟨"_", _⟩ true) => skip
    | some (.name _ _) => namePattern fuel
    | some (.operator "(") =>
      skip
      if !(← operator? ")") then
        openPattern fuel
        operator ")"
    | some (.operator "[") =>
      skip
      if !(← operator? "]") then
        patternItems fuel
        operator "]"
    | some (.operator "\x7b") =>
      skip
      if !(← operator? "\x7d") then patternEntries fuel
    | _ => constantPattern

/-- A name to bind, a dotted name to compare with, or a class with patterns for its parts. -/
def namePattern : Nat → Parse Unit
  | 0 => failure
  | fuel + 1 => do
    let _ ← dottedPattern fuel
    if ← operator? "(" then
      if !(← operator? ")") then positionalParts fuel <|> namedParts fuel
    else if ← atNameSuffix then failure

/-- One pattern, or several that make a sequence. Only in a sequence may one be starred. -/
def openPattern : Nat → Parse Unit
  | 0 => failure
  | fuel + 1 => do
    let starred ← patternItem fuel
    if ← operator? "," then
      let _ ← optional (patternItems fuel)
    else if starred then failure

/-- An item of a sequence; is it starred? -/
def patternItem : Nat → Parse Bool
  | 0 => failure
  | fuel + 1 => do
    if ← operator? "*" then
      starName
      return true
    pattern fuel
    return false

/-- The items of a sequence, with or without a comma at the end. -/
def patternItems : Nat → Parse Unit
  | 0 => failure
  | fuel + 1 => do
    let _ ← patternItem fuel
    if ← operator? "," then
      let _ ← optional (patternItems fuel)

/-- The entries of a mapping and the closing brace. What is left is bound by the last one. -/
def patternEntries : Nat → Parse Unit
  | 0 => failure
  | fuel + 1 => do
    if ← operator? "**" then
      capturePattern
      let _ ← operator? ","
      operator "\x7d"
    else
      match ← peek with
      | some (.name _ _) => if !(← dottedPattern fuel) then failure
      | _ => constantPattern
      operator ":"
      pattern fuel
      if !(← operator? "\x7d") then
        operator ","
        if !(← operator? "\x7d") then patternEntries fuel

/-- Patterns for the parts of a class by position, then by name, and the closing parenthesis. -/
def positionalParts : Nat → Parse Unit
  | 0 => failure
  | fuel + 1 => do
    if (← optional (pattern fuel)).isSome then
      if !(← operator? ")") then
        operator ","
        if !(← operator? ")") then positionalParts fuel
    else namedParts fuel

/-- Patterns for the parts of a class by name and the closing parenthesis. -/
def namedParts : Nat → Parse Unit
  | 0 => failure
  | fuel + 1 => do
    let _ ← name
    operator "="
    pattern fuel
    if !(← operator? ")") then
      operator ","
      if !(← operator? ")") then namedParts fuel
end

end RetentionPlan.Source
