import RetentionPlan.Json.Value
import RetentionPlan.Number.Shortest
import RetentionPlan.Text.Quoted

/-!
# Writing JSON

Values are written either on one line or with one item a line, indented by two blanks a level.
Characters beyond ASCII are written as they are or as escapes of sixteen-bit units.
-/
namespace RetentionPlan.Json

/-- Which characters of a text are escaped. -/
inductive Charset where
  | ascii
  | unicode
  deriving DecidableEq, Repr

def unitEscape (n : Nat) : List Char := '\\' :: 'u' :: Text.hexDigits 4 n

/-- A character inside a text. -/
def renderChar (charset : Charset) (c : Char) : List Char :=
  if c = '"' then ['\\', '"']
  else if c = '\\' then ['\\', '\\']
  else if c = '\n' then ['\\', 'n']
  else if c = '\r' then ['\\', 'r']
  else if c = '\t' then ['\\', 't']
  else if c = '\x0c' then ['\\', 'f']
  else if c = '\x08' then ['\\', 'b']
  else if c.toNat < 0x20 then unitEscape c.toNat
  else if charset = .unicode ∨ c.toNat < 0x7F then [c]
  else if c.toNat < 0x10000 then unitEscape c.toNat
  else
    let n := c.toNat - 0x10000
    unitEscape (0xD800 + n / 0x400) ++ unitEscape (0xDC00 + n % 0x400)

def renderText (charset : Charset) (s : String) : List Char :=
  '"' :: s.toList.flatMap (renderChar charset) ++ ['"']

def floatLayout : Shortest.Layout :=
  { Shortest.Layout.plain with notANumber := "NaN", infinite := "Infinity" }

/-- A line break and the blanks of a level. -/
def newline (level : Nat) : List Char := '\n' :: List.replicate (2 * level) ' '

mutual
/-- A value with its items on lines of their own, `level` levels deep. -/
def renderLines (charset : Charset) (level : Nat) : Json → List Char
  | null => "null".toList
  | bool b => (if b then "true" else "false").toList
  | int n => (toString n).toList
  | float x => (floatLayout.text x).toList
  | text s => renderText charset s
  | array [] => ['[', ']']
  | array (v :: vs) =>
    '[' :: newline (level + 1) ++ renderLines charset (level + 1) v ++
      renderItems charset (level + 1) vs ++ newline level ++ [']']
  | object [] => ['\x7b', '\x7d']
  | object ((name, v) :: fields) =>
    '\x7b' :: newline (level + 1) ++ renderText charset name ++ [':', ' '] ++
      renderLines charset (level + 1) v ++ renderFields charset (level + 1) fields ++
      newline level ++ ['\x7d']

def renderItems (charset : Charset) (level : Nat) : List Json → List Char
  | [] => []
  | v :: vs => ',' :: newline level ++ renderLines charset level v ++ renderItems charset level vs

def renderFields (charset : Charset) (level : Nat) : List (String × Json) → List Char
  | [] => []
  | (name, v) :: fields =>
    ',' :: newline level ++ renderText charset name ++ [':', ' '] ++ renderLines charset level v ++
      renderFields charset level fields
end

/-- A value with one item a line, and a line break at the end. -/
def renderDocument (charset : Charset) (v : Json) : String :=
  String.ofList (renderLines charset 0 v ++ ['\n'])

mutual
def renderCompact : Json → List Char
  | null => "null".toList
  | bool b => (if b then "true" else "false").toList
  | int n => (toString n).toList
  | float x => (floatLayout.text x).toList
  | text s => renderText .ascii s
  | array items => '[' :: renderCompactItems items ++ [']']
  | object fields => '\x7b' :: renderCompactFields fields ++ ['\x7d']

def renderCompactItems : List Json → List Char
  | [] => []
  | [v] => renderCompact v
  | v :: vs => renderCompact v ++ ',' :: renderCompactItems vs

def renderCompactFields : List (String × Json) → List Char
  | [] => []
  | [(name, v)] => renderText .ascii name ++ ':' :: renderCompact v
  | (name, v) :: fields =>
    renderText .ascii name ++ ':' :: renderCompact v ++ ',' :: renderCompactFields fields
end

/-- A value on one line, without blanks. -/
def compact (v : Json) : String := String.ofList (renderCompact v)

end RetentionPlan.Json
