import RetentionPlan.Json.Reader
import RetentionPlan.Yaml.PlainText

/-!
# Quoted text

Between single quotes a quote is written twice and all else stands for itself; between double quotes
a backslash begins an escape. Lines are joined as in plain text.
-/
namespace RetentionPlan.Yaml

/-- The character that an escape of one character stands for. -/
def simpleEscape? : Char → Option Char
  | '0' => some '\x00'
  | 'a' => some '\x07'
  | 'b' => some '\x08'
  | 't' => some '\t'
  | '\t' => some '\t'
  | 'n' => some '\n'
  | 'v' => some '\x0b'
  | 'f' => some '\x0c'
  | 'r' => some '\r'
  | 'e' => some '\x1b'
  | ' ' => some ' '
  | '"' => some '"'
  | '\\' => some '\\'
  | '/' => some '/'
  | 'N' => some '\x85'
  | '_' => some '\xa0'
  | 'L' => some '\u2028'
  | 'P' => some '\u2029'
  | _ => none

/-- How many digits follow the letter of a numeric escape. -/
def escapeDigits? : Char → Option Nat
  | 'x' => some 2
  | 'u' => some 4
  | 'U' => some 8
  | _ => none

/-- The number that digits of base 16 make. -/
def hexNumber? (cs : List Char) : Option Nat :=
  cs.foldlM (fun n c => (Json.hexValue? c).map (16 * n + ·)) 0

/-- Reads that many digits of base 16. -/
def hexDigits (count : Nat) : Scan Nat := do
  let cs := (← get).rest.take count
  match hexNumber? cs with
  | some n =>
    if cs.length < count then Scan.malformed
    Scan.skip count
    return n
  | none => Scan.malformed

/-- Half of a pair that stands for one character, written as an escape of four digits. -/
def lowHalf? : List Char → Option Nat
  | '\\' :: 'u' :: rest => do
    let n ← hexNumber? (rest.take 4)
    if rest.length < 4 || n < 0xDC00 || 0xDFFF < n then none else return n - 0xDC00
  | _ => none

/-- The character of a number. Half of a pair without the other half becomes the replacement
character. -/
def numbered (n : Nat) : Scan Char := do
  if 0x10FFFF < n then throw (.noCharacter n)
  if 0xD800 ≤ n && n < 0xDC00 then
    match lowHalf? (← get).rest with
    | some low =>
      Scan.skip 6
      return Char.ofNat (0x10000 + (n - 0xD800) * 0x400 + low)
    | none => return '\ufffd'
  return if 0xD800 ≤ n && n < 0xE000 then '\ufffd' else Char.ofNat n

/-- Empty lines inside quotes and the blanks at the head of the next one. -/
def quotedEmptyLines : Nat → Scan (List Char)
  | 0 => Scan.malformed
  | fuel + 1 => do
    if (← get).atSeparator then Scan.malformed
    Scan.skipWhile fun c => c = ' ' || c = '\t'
    match ← Scan.lineBreak? with
    | none => return []
    | some x => return x :: (← quotedEmptyLines fuel)

/-- Does the character need a closer look inside quotes? -/
def isQuotedMark (c : Char) : Bool := c = '\x27' || c = '"' || c = '\\' || endsWord (some c)

/-- Characters inside quotes up to a blank, the end of a line or the closing quote. -/
def quotedStretch (double : Bool) : Nat → Scan (List Char)
  | 0 => Scan.malformed
  | fuel + 1 => do
    let plain ← Scan.takeWhile (!isQuotedMark ·)
    match double, (← get).rest with
    | false, '\x27' :: '\x27' :: _ =>
      Scan.skip 2
      return plain ++ '\x27' :: (← quotedStretch double fuel)
    | true, '\x27' :: _ =>
      Scan.skip 1
      return plain ++ '\x27' :: (← quotedStretch double fuel)
    | false, '"' :: _ =>
      Scan.skip 1
      return plain ++ '"' :: (← quotedStretch double fuel)
    | false, '\\' :: _ =>
      Scan.skip 1
      return plain ++ '\\' :: (← quotedStretch double fuel)
    | true, '\\' :: c :: _ =>
      Scan.skip 1
      if let some x := simpleEscape? c then
        Scan.skip 1
        return plain ++ x :: (← quotedStretch double fuel)
      if let some count := escapeDigits? c then
        Scan.skip 1
        let x ← numbered (← hexDigits count)
        return plain ++ x :: (← quotedStretch double fuel)
      match ← Scan.lineBreak? with
      | some _ =>
        let breaks ← quotedEmptyLines ((← get).rest.length + 1)
        return plain ++ breaks ++ (← quotedStretch double fuel)
      | none => Scan.malformed
    | true, '\\' :: [] => Scan.malformed
    | _, _ => return plain

/-- Blanks inside quotes, or the ends of lines folded. -/
def quotedGap : Scan (List Char) := do
  let blanks ← Scan.takeWhile fun c => c = ' ' || c = '\t'
  if (← Scan.peek?).isNone then Scan.malformed
  match ← Scan.lineBreak? with
  | none => return blanks
  | some first => return foldBreaks first (← quotedEmptyLines ((← get).rest.length + 1))

/-- The rest of quoted text with its closing quote. -/
def quotedRest (double : Bool) : Nat → Scan (List Char)
  | 0 => Scan.malformed
  | fuel + 1 => do
    let stretch ← quotedStretch double ((← get).rest.length + 1)
    if (← Scan.peek?) = some (if double then '"' else '\x27') then
      Scan.skip 1
      return stretch
    let gap ← quotedGap
    return stretch ++ gap ++ (← quotedRest double fuel)

def quotedText (double : Bool) : Scan (List Char) := do
  Scan.skip 1
  quotedRest double ((← get).rest.length + 1)

end RetentionPlan.Yaml
