import RetentionPlan.Yaml.Error

/-!
# Places in a text

A cursor is the rest of a text and how much of it was passed, in characters, lines and columns. The
byte order mark takes no column. Readers move a cursor or fail.
-/
namespace RetentionPlan.Yaml

/-- Does the character end a line? -/
def isBreak (c : Char) : Bool :=
  c = '\n' || c = '\r' || c = '\x85' || c = '\u2028' || c = '\u2029'

/-- Does a line end before what comes next? -/
def endsLine : Option Char → Bool
  | none => true
  | some c => isBreak c

def endsField (next : Option Char) : Bool := next = some ' ' || endsLine next

/-- Does something end that blanks and tabs end? -/
def endsWord (next : Option Char) : Bool := next = some '\t' || endsField next

structure Cursor where
  rest : List Char
  index : Nat := 0
  line : Nat := 0
  column : Nat := 0

namespace Cursor

def peek? (c : Cursor) (k : Nat := 0) : Option Char := c.rest[k]?

def next (c : Cursor) : Cursor :=
  match c.rest with
  | [] => c
  | x :: rest =>
    if isBreak x && !(x = '\r' && rest.head? = some '\n') then ⟨rest, c.index + 1, c.line + 1, 0⟩
    else ⟨rest, c.index + 1, c.line, if x = '\ufeff' then c.column else c.column + 1⟩

def forward (c : Cursor) : Nat → Cursor
  | 0 => c
  | n + 1 => c.next.forward n

/-- The end of a line that comes next: as a line feed, unless it is one of the two separators, which
stay what they are. -/
def lineBreak? (c : Cursor) : Option (Char × Cursor) :=
  match c.rest with
  | '\r' :: '\n' :: _ => some ('\n', c.forward 2)
  | x :: _ =>
    if x = '\u2028' ∨ x = '\u2029' then some (x, c.next)
    else if isBreak x then some ('\n', c.next)
    else none
  | [] => none

/-- Does a mark between documents come next? -/
def atSeparator (c : Cursor) : Bool :=
  (['-', '-', '-'].isPrefixOf c.rest || ['.', '.', '.'].isPrefixOf c.rest) && endsWord (c.peek? 3)

end Cursor

abbrev Scan (α : Type) := StateT Cursor (Except Error) α

namespace Scan

def malformed {α : Type} : Scan α := throw .malformed

def peek? (k : Nat := 0) : Scan (Option Char) := return (← get).peek? k

def take (n : Nat) : Scan (List Char) :=
  modifyGet fun c => (c.rest.take n, c.forward n)

/-- Passes over `n` characters. -/
def skip (n : Nat) : Scan Unit := modify (·.forward n)

/-- Takes characters as long as they are of a kind. -/
def takeWhile (kind : Char → Bool) : Scan (List Char) := do
  take ((← get).rest.takeWhile kind).length

/-- Passes over characters of a kind. -/
def skipWhile (kind : Char → Bool) : Scan Unit := do
  let _ ← takeWhile kind

def skipBlanks : Scan Unit := skipWhile (· = ' ')

/-- Takes the end of a line if it comes next. -/
def lineBreak? : Scan (Option Char) :=
  modifyGet fun c => match c.lineBreak? with
    | some (x, c) => (some x, c)
    | none => (none, c)

/-- Passes over blanks, a comment and the end of the line; nothing else may stand there. -/
def endLine : Scan Unit := do
  skipBlanks
  if (← peek?) = some '#' then skipWhile (!isBreak ·)
  if !endsLine (← peek?) then malformed
  let _ ← lineBreak?

end Scan
end RetentionPlan.Yaml
