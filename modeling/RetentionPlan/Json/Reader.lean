import RetentionPlan.Json.Value
import RetentionPlan.Number.Decimal
import RetentionPlan.Number.Integer

/-!
# Reading JSON

Reads one value with blanks around it. The numbers `NaN`, `Infinity` and `-Infinity` are accepted;
control characters inside texts are not. An escape for half of a surrogate pair without the other
half becomes the replacement character.
-/
namespace RetentionPlan.Json

/-- Why a text is not read. -/
inductive JsonError where
  | malformed
  /-- An integer has more digits than are converted. -/
  | tooManyDigits (count : Nat)
  deriving DecidableEq, Repr

/-- The wording for a number that is too long. -/
def JsonError.message? : JsonError → Option String
  | malformed => none
  | tooManyDigits count =>
    some (s!"Exceeds the limit ({Integer.maxDigits} digits) for integer string conversion: " ++
      s!"value has {count} digits; use sys.set_int_max_str_digits() to increase the limit")

/-- A value with the text after it. -/
abbrev Read (α : Type) := Except JsonError (α × List Char)

/-- Blanks between the parts of a value. -/
def isSpace (c : Char) : Bool := c = ' ' || c = '\t' || c = '\n' || c = '\r'

/-- The text after its leading blanks. -/
def skipSpace (cs : List Char) : List Char := cs.dropWhile isSpace

def hexValue? (c : Char) : Option Nat :=
  if '0' ≤ c ∧ c ≤ '9' then some (c.toNat - 0x30)
  else if 'a' ≤ c ∧ c ≤ 'f' then some (c.toNat - 0x57)
  else if 'A' ≤ c ∧ c ≤ 'F' then some (c.toNat - 0x37)
  else none

/-- The number of four digits of base 16. -/
def hexUnit? (a b c d : Char) : Option Nat := do
  return (((← hexValue? a) * 16 + (← hexValue? b)) * 16 + (← hexValue? c)) * 16 + (← hexValue? d)

def shortEscape? : Char → Option Char
  | '"' => some '"'
  | '\\' => some '\\'
  | '/' => some '/'
  | 'b' => some '\x08'
  | 'f' => some '\x0c'
  | 'n' => some '\n'
  | 'r' => some '\r'
  | 't' => some '\t'
  | _ => none

/-- The rest of a text after its opening quote, as code points and sixteen-bit units. -/
def readUnits : List Char → Read (List Nat)
  | [] => .error .malformed
  | '"' :: rest => .ok ([], rest)
  | '\\' :: 'u' :: a :: b :: c :: d :: rest =>
    match hexUnit? a b c d with
    | none => .error .malformed
    | some unit => (readUnits rest).map fun (units, rest) => (unit :: units, rest)
  | '\\' :: e :: rest =>
    match shortEscape? e with
    | none => .error .malformed
    | some c => (readUnits rest).map fun (units, rest) => (c.toNat :: units, rest)
  | c :: rest =>
    if c.toNat < 0x20 ∨ c = '\\' then .error .malformed
    else (readUnits rest).map fun (units, rest) => (c.toNat :: units, rest)

/-- The characters of code points and units, two halves of a surrogate pair making one. -/
def joinUnits : List Nat → List Char
  | [] => []
  | high :: low :: rest =>
    if 0xD800 ≤ high ∧ high < 0xDC00 ∧ 0xDC00 ≤ low ∧ low < 0xE000 then
      Char.ofNat (0x10000 + (high - 0xD800) * 0x400 + (low - 0xDC00)) :: joinUnits rest
    else
      (if 0xD800 ≤ high ∧ high < 0xE000 then '\ufffd' else Char.ofNat high) ::
        joinUnits (low :: rest)
  | [n] => [if 0xD800 ≤ n ∧ n < 0xE000 then '\ufffd' else Char.ofNat n]

/-- Reads a text whose opening quote has been read. -/
def readText (cs : List Char) : Read String :=
  (readUnits cs).map fun (units, rest) => (String.ofList (joinUnits units), rest)

def digitsOf (cs : List Char) : List Char × List Char := cs.span Char.isDigit

/-- The value of decimal digits. -/
def natOf (ds : List Char) : Nat := ds.foldl (fun n d => 10 * n + (d.toNat - 0x30)) 0

/-- The fraction of a number, if a point with digits follows. -/
def readFraction : List Char → Option (List Char) × List Char
  | '.' :: cs =>
    match digitsOf cs with
    | ([], _) => (none, '.' :: cs)
    | (ds, rest) => (some ds, rest)
  | cs => (none, cs)

/-- The exponent of a number, if a letter with digits follows. -/
def readExponent (cs : List Char) : Option Int × List Char :=
  match cs with
  | e :: more =>
    if e = 'e' ∨ e = 'E' then
      let (negative, body) := match more with
        | '-' :: rest => (true, rest)
        | '+' :: rest => (false, rest)
        | rest => (false, rest)
      match digitsOf body with
      | ([], _) => (none, cs)
      | (ds, rest) => (some (if negative then -(natOf ds : Int) else natOf ds), rest)
    else (none, cs)
  | [] => (none, [])

/-- Reads a number; its sign has been read. -/
def readNumber (negative : Bool) (cs : List Char) : Read Json :=
  let (whole, rest) := match cs with
    | '0' :: rest => (['0'], rest)
    | cs => digitsOf cs
  if whole = [] then .error .malformed
  else
    let (fraction, rest) := readFraction rest
    let (exponent, rest) := readExponent rest
    match fraction, exponent with
    | none, none =>
      if Integer.maxDigits < whole.length then .error (.tooManyDigits whole.length)
      else .ok (.int (if negative then -(natOf whole : Int) else natOf whole), rest)
    | _, _ =>
      let places := fraction.getD []
      .ok (.float (Binary64.ofDecimal negative (natOf (whole ++ places))
        (exponent.getD 0 - places.length)), rest)

def words : List (List Char × Json) :=
  [("null".toList, .null), ("true".toList, .bool true), ("false".toList, .bool false),
    ("NaN".toList, .float (.ofFloat (0.0 / 0.0))),
    ("Infinity".toList, .float (.ofFloat (1.0 / 0.0))),
    ("-Infinity".toList, .float (.ofFloat (-1.0 / 0.0)))]

def readScalar (cs : List Char) : Read Json :=
  match words.find? fun (word, _) => word.isPrefixOf cs with
  | some (word, v) => .ok (v, cs.drop word.length)
  | none =>
    match cs with
    | '-' :: rest => readNumber true rest
    | cs => readNumber false cs

mutual
/-- Reads a value without blanks around it. -/
def readValue : Nat → List Char → Read Json
  | 0, _ => .error .malformed
  | fuel + 1, cs =>
    match cs with
    | '"' :: cs => (readText cs).map fun (s, rest) => (.text s, rest)
    | '[' :: cs =>
      match skipSpace cs with
      | ']' :: rest => .ok (.array [], rest)
      | cs => (readItems fuel cs).map fun (items, rest) => (.array items, rest)
    | '\x7b' :: cs =>
      match skipSpace cs with
      | '\x7d' :: rest => .ok (.object [], rest)
      | cs => (readFields fuel cs).map fun (fields, rest) => (.object fields, rest)
    | cs => readScalar cs

/-- Reads the items of an array from the first on, and the closing bracket. -/
def readItems : Nat → List Char → Except JsonError (List Json × List Char)
  | 0, _ => .error .malformed
  | fuel + 1, cs => do
    let (v, rest) ← readValue fuel cs
    match skipSpace rest with
    | ']' :: rest => return ([v], rest)
    | ',' :: rest =>
      let (vs, rest) ← readItems fuel (skipSpace rest)
      return (v :: vs, rest)
    | _ => .error .malformed

/-- Reads the fields of an object from the first on, and the closing brace. -/
def readFields : Nat → List Char → Except JsonError (List (String × Json) × List Char)
  | 0, _ => .error .malformed
  | fuel + 1, cs =>
    match cs with
    | '"' :: cs => do
      let (name, rest) ← readText cs
      match skipSpace rest with
      | ':' :: rest =>
        let (v, rest) ← readValue fuel (skipSpace rest)
        match skipSpace rest with
        | '\x7d' :: rest => return ([(name, v)], rest)
        | ',' :: rest =>
          let (fields, rest) ← readFields fuel (skipSpace rest)
          return ((name, v) :: fields, rest)
        | _ => .error .malformed
      | _ => .error .malformed
    | _ => .error .malformed
end

/-- Reads a text that holds one value. -/
def parse (s : String) : Except JsonError Json :=
  let cs := skipSpace s.toList
  match readValue (cs.length + 1) cs with
  | .error e => .error e
  | .ok (v, rest) => if skipSpace rest = [] then .ok v else .error .malformed

end RetentionPlan.Json
