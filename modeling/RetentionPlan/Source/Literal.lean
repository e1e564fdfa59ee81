import RetentionPlan.Json.Reader
import RetentionPlan.Source.Token
import RetentionPlan.Unicode.Names

/-!
# String literals

A literal is some letters, a quote or three, and a body. The letters say whether the body is text,
bytes or a formatted string, and whether its escapes count. A formatted string holds expressions
between braces, each with a conversion and a format that may hold expressions in turn.
-/
namespace RetentionPlan.Source.Literal

/-- The body after an opening quote, and the text after the closing one. A line break must be
escaped. -/
def bodyUntil (quote : Char) : List Char → Option (List Char × List Char)
  | [] => none
  | '\\' :: c :: rest => (bodyUntil quote rest).map fun (body, after) => ('\\' :: c :: body, after)
  | c :: rest =>
    if c = quote then some ([], rest)
    else if c = '\n' then none
    else (bodyUntil quote rest).map fun (body, after) => (c :: body, after)

/-- The body after three opening quotes, and the text after the three closing ones. -/
def longBodyUntil (quote : Char) : List Char → Option (List Char × List Char)
  | [] => none
  | '\\' :: c :: rest =>
    (longBodyUntil quote rest).map fun (body, after) => ('\\' :: c :: body, after)
  | c :: rest =>
    if c = quote ∧ rest.take 2 = [quote, quote] then some ([], rest.drop 2)
    else (longBodyUntil quote rest).map fun (body, after) => (c :: body, after)

/-- The body of a literal that begins with `quote`, which has been read. -/
def body? (quote : Char) (cs : List Char) : Option (List Char × List Char) :=
  if cs.take 2 = [quote, quote] then longBodyUntil quote (cs.drop 2) else bodyUntil quote cs

def shortEscape? : Char → Option Char
  | '\\' => some '\\'
  | '\'' => some '\''
  | '"' => some '"'
  | 'b' => some '\x08'
  | 'f' => some '\x0c'
  | 't' => some '\t'
  | 'n' => some '\n'
  | 'r' => some '\r'
  | 'v' => some '\x0b'
  | 'a' => some '\x07'
  | _ => none

/-- The character of a code point; half of a surrogate pair becomes the replacement character. -/
def charOf (n : Nat) : Char := if 0xD800 ≤ n ∧ n < 0xE000 then '\ufffd' else Char.ofNat n

/-- The number of exactly `width` digits of base 16. -/
def hexRun (width : Nat) (cs : List Char) : Option (Nat × List Char) := do
  let digits := cs.take width
  if digits.length ≠ width then none
  let values ← digits.mapM Json.hexValue?
  return (values.foldl (fun n d => 16 * n + d) 0, cs.drop width)

/-- The number of at most `width` digits of base 8. -/
def octalRun : Nat → Nat → List Char → Nat × List Char
  | 0, n, cs => (n, cs)
  | _ + 1, n, [] => (n, [])
  | width + 1, n, c :: rest =>
    if '0' ≤ c ∧ c ≤ '7' then octalRun width (8 * n + (c.toNat - 0x30)) rest else (n, c :: rest)

/-- What an escape stands for, its backslash having been read; none if it is malformed. An unknown
escape stands for itself, backslash included. -/
def escape (c : Char) (rest : List Char) : Option (List Char × List Char) :=
  if c = '\n' then some ([], rest)
  else if '0' ≤ c ∧ c ≤ '7' then
    let (n, rest) := octalRun 2 (c.toNat - 0x30) rest
    some ([charOf n], rest)
  else
    match shortEscape? c with
    | some e => some ([e], rest)
    | none =>
      if c = 'x' then (hexRun 2 rest).map fun (n, rest) => ([charOf n], rest)
      else if c = 'u' then (hexRun 4 rest).map fun (n, rest) => ([charOf n], rest)
      else if c = 'U' then
        (hexRun 8 rest).bind fun (n, rest) => if n < 0x110000 then some ([charOf n], rest) else none
      else if c = 'N' then
        match rest with
        | '\x7b' :: rest =>
          let name := rest.takeWhile (· ≠ '\x7d')
          match rest.drop name.length with
          | _ :: rest => (Unicode.namedChar? (String.ofList name)).map fun c => ([c], rest)
          | [] => none
        | _ => none
      else some (['\\', c], rest)

/-- The characters of a body whose escapes count; `fuel` exceeds the length. -/
def unescape : Nat → List Char → Option (List Char)
  | 0, _ => none
  | _ + 1, [] => some []
  | fuel + 1, '\\' :: c :: rest => do
    let (cs, rest) ← escape c rest
    return cs ++ (← unescape fuel rest)
  | fuel + 1, c :: rest => do return c :: (← unescape fuel rest)

def textOf (raw : Bool) (body : List Char) : Option (List Char) :=
  if raw then some body else unescape (body.length + 1) body

/-- Are the escapes of a body of bytes well formed? -/
def bytesEscapesFit : List Char → Bool
  | '\\' :: 'x' :: rest =>
    match rest with
    | a :: b :: rest =>
      (Json.hexValue? a).isSome && (Json.hexValue? b).isSome && bytesEscapesFit rest
    | _ => false
  | '\\' :: _ :: rest => bytesEscapesFit rest
  | _ :: rest => bytesEscapesFit rest
  | [] => true

/-! ### Formatted strings -/

/-- Where the plain part of a formatted string ends. -/
inductive Stop where
  /-- A doubled brace, of which one belongs to the plain part. -/
  | doubled
  | opening
  | closing
  | atEnd
  deriving DecidableEq, Repr

/-- The plain part at the head of a formatted string, why it stops, and what follows the brace that
stops it. Only outside formats (`outer`) a doubled brace stands for one. `inName` says that the text
is inside the braces of a character's name. -/
def plainPart (raw outer : Bool) : (inName : Bool) → List Char → List Char × Stop × List Char
  | _, [] => ([], .atEnd, [])
  | true, c :: rest =>
    let (plain, stop, after) := plainPart raw outer (c ≠ '\x7d') rest
    (c :: plain, stop, after)
  | false, c :: rest =>
    if c = '\\' ∧ ¬ raw then
      match rest with
      | [] => ([c], .atEnd, [])
      | 'N' :: '\x7b' :: more =>
        let (plain, stop, after) := plainPart raw outer true more
        (c :: 'N' :: '\x7b' :: plain, stop, after)
      | e :: more =>
        if e = '\x7b' ∨ e = '\x7d' then
          let (plain, stop, after) := plainPart raw outer false (e :: more)
          (c :: plain, stop, after)
        else
          let (plain, stop, after) := plainPart raw outer false more
          (c :: e :: plain, stop, after)
    else if c = '\x7b' ∨ c = '\x7d' then
      if outer && rest.head? = some c then ([c], .doubled, rest.drop 1)
      else ([], if c = '\x7b' then .opening else .closing, rest)
    else
      let (plain, stop, after) := plainPart raw outer false rest
      (c :: plain, stop, after)

/-- The bracket that closes another. -/
def closerOf (c : Char) : Char :=
  if c = '(' then ')' else if c = '[' then ']' else '\x7d'

/-- The text of an expression and what follows it, which begins with the character that ends the
expression. `quote` is the quote of the string under way, with its length; `closers` are the
brackets still to be closed. Backslashes and comments are refused. -/
def expressionText (quote : Option (Char × Bool)) (closers : List Char) :
    List Char → Option (List Char × List Char)
  | [] => none
  | c :: rest =>
    let one (quote : Option (Char × Bool)) (closers : List Char) : Option (List Char × List Char) :=
      (expressionText quote closers rest).map fun (chars, after) => (c :: chars, after)
    if c = '\\' then none
    else
      match quote with
      | some (q, false) => one (if c = q then none else quote) closers
      | some (q, true) =>
        match rest with
        | a :: b :: more =>
          if c = q ∧ a = q ∧ b = q then
            (expressionText none closers more).map fun (chars, after) =>
              (c :: a :: b :: chars, after)
          else one quote closers
        | _ => none
      | none =>
        if c = '\'' ∨ c = '"' then
          match rest with
          | a :: b :: more =>
            if a = c ∧ b = c then
              (expressionText (some (c, true)) closers more).map fun (chars, after) =>
                (c :: a :: b :: chars, after)
            else one (some (c, false)) closers
          | _ => one (some (c, false)) closers
        else if c = '(' ∨ c = '[' ∨ c = '\x7b' then
          if 200 ≤ closers.length then none else one none (closerOf c :: closers)
        else if c = '#' then none
        else if closers = [] ∧ (c = '!' ∨ c = '=' ∨ c = '<' ∨ c = '>' ∨ c = ':' ∨ c = '\x7d') then
          match rest with
          | '=' :: more =>
            if c = ':' ∨ c = '\x7d' then some ([], c :: rest)
            else (expressionText none closers more).map fun (chars, after) =>
              (c :: '=' :: chars, after)
          | _ => if c = '<' ∨ c = '>' then one none closers else some ([], c :: rest)
        else if c = ')' ∨ c = ']' ∨ c = '\x7d' then
          match closers with
          | [] => none
          | closer :: closers => if c = closer then one none closers else none
        else one none closers

/-- Blanks that may follow the sign that shows an expression's text. -/
def isAsciiSpace (c : Char) : Bool := c = ' ' || (9 ≤ c.toNat && c.toNat ≤ 13)

/-- Is there anything but blanks in an expression? -/
def isSolid (text : List Char) : Bool :=
  text.any fun c => !(c = ' ' || c = '\t' || c = '\n' || c = '\x0c')

/-- What follows the conversion of an expression, if it has one. -/
def afterConversion : List Char → Option (List Char)
  | '!' :: c :: next :: rest =>
    if (c = 's' ∨ c = 'r' ∨ c = 'a') ∧ (next = '\x7d' ∨ next = ':') then some (next :: rest)
      else none
  | '!' :: _ => none
  | cs => some cs

/-- The texts of the expressions in a formatted string or, for a positive `level`, in a format, with
what follows it: nothing, or the brace that closes it. `fuel` exceeds the length. -/
def fields (raw : Bool) : (fuel level : Nat) → List Char → Option (List (List Char) × List Char)
  | 0, _, _ => none
  | fuel + 1, level, cs => do
    let (plain, stop, rest) := plainPart raw (level = 0) false cs
    let _ ← textOf raw plain
    match stop with
    | .doubled => fields raw fuel level rest
    | .atEnd => if level = 0 then return ([], []) else none
    | .closing => if level = 0 then none else return ([], '\x7d' :: rest)
    | .opening =>
      if 2 ≤ level then none
      let (chars, rest) ← expressionText none [] rest
      if !isSolid chars then none
      let rest := match rest with
        | '=' :: rest => rest.dropWhile isAsciiSpace
        | rest => rest
      let rest ← afterConversion rest
      let (inner, rest) ← match rest with
        | ':' :: rest => fields raw fuel (level + 1) rest
        | rest => some ([], rest)
      match rest with
      | '\x7d' :: rest =>
        let (more, rest) ← fields raw fuel level rest
        return (chars :: inner ++ more, rest)
      | _ => none

/-- The letters that may stand before a quote, in lower case. -/
def literalMarks : List String := ["", "b", "r", "u", "f", "br", "rb", "fr", "rf"]

def ofBody? (marks : List Char) (body : List Char) : Option Literal :=
  let raw := marks.contains 'r'
  if marks.contains 'b' then
    if body.all (·.toNat < 0x80) && (raw || bytesEscapesFit body) then some .bytes else none
  else if marks.contains 'f' then
    (fields raw (body.length + 1) 0 body).map fun (texts, _) => .formatted texts
  else (textOf raw body).map fun cs => .text (String.ofList cs)

end RetentionPlan.Source.Literal
