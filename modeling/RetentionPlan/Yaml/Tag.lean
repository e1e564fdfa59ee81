import RetentionPlan.Number.Integer
import RetentionPlan.Yaml.Cursor
import RetentionPlan.Yaml.QuotedText
import RetentionPlan.Yaml.Token

/-!
# Names, tags and directives

Readers for anchors and aliases, for tags with their handles, and for the lines that begin with a
percent sign.
-/
namespace RetentionPlan.Yaml

def isNameChar (c : Char) : Bool := c.isAlphanum || c = '-' || c = '_'

/-- Characters of the part of a tag after its handle. -/
def isUriChar (c : Char) : Bool :=
  c.isAlphanum || "-;/?:@&=+$,_.!~*'()[]".toList.contains c

def scanName : Scan String := do
  let name ← Scan.takeWhile isNameChar
  if name = [] then Scan.malformed
  return String.ofList name

def endsAnchor (next : Option Char) : Bool :=
  endsWord next || next.any ['?', ':', ',', ']', '\x7d', '%', '@', '\x60'].contains

/-- The name of an anchor or an alias, after its mark. -/
def anchorName : Scan String := do
  Scan.skip 1
  let name ← scanName
  if endsAnchor (← Scan.peek?) then return name
  Scan.malformed

/-- The bytes of escapes that stand side by side. -/
def escapedBytes : Nat → Scan (List UInt8)
  | 0 => Scan.malformed
  | fuel + 1 => do
    if (← Scan.peek?) ≠ some '%' then return []
    Scan.skip 1
    let b ← hexDigits 2
    return UInt8.ofNat b :: (← escapedBytes fuel)

/-- The part of a tag after its handle; escapes give the bytes of characters. -/
def uriFrom : Nat → Scan (List Char)
  | 0 => Scan.malformed
  | fuel + 1 => do
    let plain ← Scan.takeWhile isUriChar
    if (← Scan.peek?) ≠ some '%' then return plain
    let bytes ← escapedBytes ((← get).rest.length + 1)
    match String.fromUTF8? ⟨bytes.toArray⟩ with
    | none => Scan.malformed
    | some s => return plain ++ s.toList ++ (← uriFrom fuel)

/-- The part of a tag after its handle. Something has to stand there, be it an escape. -/
def uri : Scan String := do
  let start := (← get).index
  let cs ← uriFrom ((← get).rest.length + 1)
  if (← get).index = start then Scan.malformed
  return String.ofList cs

/-- The handle at the head of a tag: an exclamation mark, or a name between two. -/
def tagHandle : Scan String := do
  if (← Scan.peek?) ≠ some '!' then Scan.malformed
  if (← Scan.peek? 1) = some ' ' then
    return String.ofList (← Scan.take 1)
  let name := (← get).rest.tail.takeWhile isNameChar
  if (← Scan.peek? (name.length + 1)) ≠ some '!' then Scan.malformed
  return String.ofList (← Scan.take (name.length + 2))

/-- Does a second exclamation mark follow in the same field? -/
def hasHandle : List Char → Bool
  | [] => false
  | c :: rest => if endsField (some c) then false else c = '!' || hasHandle rest

def scanTag : Scan Token := do
  let next ← Scan.peek? 1
  let tag ←
    if next = some '<' then do
      Scan.skip 2
      let suffix ← uri
      if (← Scan.peek?) ≠ some '>' then Scan.malformed
      Scan.skip 1
      pure (Token.tag none suffix)
    else if endsWord next then do
      Scan.skip 1
      pure (Token.tag none "!")
    else if hasHandle (← get).rest.tail then do
      let handle ← tagHandle
      pure (Token.tag (some handle) (← uri))
    else do
      Scan.skip 1
      pure (Token.tag (some "!") (← uri))
  if endsField (← Scan.peek?) then return tag
  Scan.malformed

def versionNumber : Scan Nat := do
  let digits ← Scan.takeWhile Char.isDigit
  if digits = [] then Scan.malformed
  match Integer.parse (String.ofList digits) with
  | some n => return n.toNat
  | none => throw .notNumber

/-- A directive from its percent sign to the end of the line. -/
def scanDirective : Scan Token := do
  Scan.skip 1
  let name ← scanName
  if !endsField (← Scan.peek?) then Scan.malformed
  let token ← match name with
    | "YAML" => do
      Scan.skipBlanks
      let major ← versionNumber
      if (← Scan.peek?) ≠ some '.' then Scan.malformed
      Scan.skip 1
      let minor ← versionNumber
      if !endsField (← Scan.peek?) then Scan.malformed
      pure (Token.version major minor)
    | "TAG" => do
      Scan.skipBlanks
      let handle ← tagHandle
      if (← Scan.peek?) ≠ some ' ' then Scan.malformed
      Scan.skipBlanks
      let expansion ← uri
      if !endsField (← Scan.peek?) then Scan.malformed
      pure (Token.tagHandle handle expansion)
    | _ => do
      Scan.skipWhile (!isBreak ·)
      pure Token.directive
  Scan.endLine
  return token

end RetentionPlan.Yaml
