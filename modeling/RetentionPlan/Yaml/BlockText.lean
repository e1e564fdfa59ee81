import RetentionPlan.Yaml.PlainText

/-!
# Block text

Indented lines after a bar or an angle bracket. A bar keeps the ends of lines; an angle bracket
folds those between lines that do not begin with a blank. A sign behind either says what becomes of
the last ends of lines, and a digit how far the lines are indented.
-/
namespace RetentionPlan.Yaml

/-- What becomes of the ends of lines at the end of block text. -/
inductive Chomping where
  /-- None is kept. -/
  | strip
  /-- The first is kept. -/
  | clip
  /-- All are kept. -/
  | keep
  deriving DecidableEq, Repr

def chomping? : Scan (Option Chomping) := do
  match ← Scan.peek? with
  | some '+' =>
    Scan.skip 1
    return some .keep
  | some '-' =>
    Scan.skip 1
    return some .strip
  | _ => return none

def indentation? : Scan (Option Nat) := do
  match ← Scan.peek? with
  | some c =>
    if '0' ≤ c && c ≤ '9' then
      if c = '0' then Scan.malformed
      Scan.skip 1
      return some (c.toNat - 0x30)
    return none
  | none => return none

/-- The sign and the digit in either order, and the rest of the line. -/
def blockHeader : Scan (Chomping × Option Nat) := do
  let first ← chomping?
  let increment ← indentation?
  let second ← if first.isNone && increment.isSome then chomping? else pure none
  if !endsField (← Scan.peek?) then Scan.malformed
  Scan.endLine
  return ((first.or second).getD .clip, increment)

/-- Empty lines before block text, and the greatest column of the blanks in them and after. -/
def leadingLines : Nat → (deepest : Nat) → Scan (List Char × Nat)
  | 0, _ => Scan.malformed
  | fuel + 1, deepest => do
    Scan.skipBlanks
    let deepest := max deepest (← get).column
    match ← Scan.lineBreak? with
    | none => return ([], deepest)
    | some x =>
      let (more, deepest) ← leadingLines fuel deepest
      return (x :: more, deepest)

/-- Passes over blanks up to a column. -/
def skipIndent (indent : Nat) : Scan Unit := do
  let c ← get
  Scan.skip ((c.rest.take (indent - c.column)).takeWhile (· = ' ')).length

def blankLines (indent : Nat) : Nat → Scan (List Char)
  | 0 => Scan.malformed
  | fuel + 1 => do
    skipIndent indent
    match ← Scan.lineBreak? with
    | none => return []
    | some x => return x :: (← blankLines indent fuel)

/-- Does a line of the text come next? -/
def atBlockLine (indent : Nat) : Scan Bool := do
  let c ← get
  return c.column = indent && c.peek?.isSome

/-- Does a blank or a tab come next? -/
def atSpace : Scan Bool := do
  let next ← Scan.peek?
  return next = some ' ' || next = some '\t'

/-- The lines of block text, each with what joins it to the next. `breaks` are the empty lines
before. Returned with the end of the last line and the empty lines after it. -/
def blockLines (folded : Bool) (indent : Nat) :
    Nat → (breaks : List Char) → Scan (List Char × Option Char × List Char)
  | 0, _ => Scan.malformed
  | fuel + 1, breaks => do
    let spaced ← atSpace
    let line ← Scan.takeWhile (!isBreak ·)
    let ending ← Scan.lineBreak?
    let after ← blankLines indent ((← get).rest.length + 1)
    let read := breaks ++ line
    if !(← atBlockLine indent) then return (read, ending, after)
    let folds := folded && ending = some '\n' && !spaced && !(← atSpace)
    let joint := if folds then (if after = [] then [' '] else []) else ending.toList
    let (more, ending, last) ← blockLines folded indent fuel after
    return (read ++ joint ++ more, ending, last)

/-- Block text from its mark on, inside a block that is indented by `outer`. -/
def blockText (folded : Bool) (outer : Int) : Scan (List Char) := do
  Scan.skip 1
  let (chomping, increment) ← blockHeader
  let least := (max (outer + 1) 1).toNat
  let fuel := (← get).rest.length + 1
  let (breaks, indent) ← match increment with
    | none => do
      let (breaks, deepest) ← leadingLines fuel 0
      pure (breaks, max least deepest)
    | some n => do
      let indent := least + n - 1
      pure (← blankLines indent fuel, indent)
  let (text, ending, last) ←
    if ← atBlockLine indent then blockLines folded indent fuel breaks
    else pure ([], none, breaks)
  match chomping with
  | .strip => return text
  | .clip => return text ++ ending.toList
  | .keep => return text ++ ending.toList ++ last

end RetentionPlan.Yaml
