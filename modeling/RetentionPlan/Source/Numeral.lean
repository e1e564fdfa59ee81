import RetentionPlan.Number.Integer

/-!
# Numbers in source text

Whole numbers in base 2, 8, 10 and 16, decimal fractions with exponents, and imaginary numbers.
Single underscores may stand between digits. A number must not run into a name, except that some
keywords may follow without a blank.
-/
namespace RetentionPlan.Source.Numeral

/-- A character that may stand in a name, as far as the extent of names goes. -/
def isNameChar (c : Char) : Bool := c.isAlphanum || c = '_' || 0x80 ≤ c.toNat

/-- Does the text go on with `word` and no further name character? -/
def followedBy (word : String) (cs : List Char) : Bool :=
  let w := word.toList
  w.isPrefixOf cs && !((cs.drop w.length).head?.any isNameChar)

/-- May a number end before this text? -/
def endsBefore (cs : List Char) : Bool :=
  match cs with
  | [] => true
  | 'i' :: c :: _ => c = 'f' || c = 'n' || c = 's'
  | c :: _ =>
    !isNameChar c || ["and", "else", "for", "or", "not"].any fun word => followedBy word cs

/-- The text after a number that ends here. -/
def ended (cs : List Char) : Option (List Char) := if endsBefore cs then some cs else none

/-- The rest of a run of digits whose first digit has been read, with the number of digits in it. -/
def digitTail : List Char → Option (Nat × List Char)
  | '_' :: d :: rest => if d.isDigit then (digitTail rest).map fun (n, r) => (n + 1, r) else none
  | ['_'] => none
  | [] => some (0, [])
  | c :: rest =>
    if c.isDigit then (digitTail rest).map fun (n, r) => (n + 1, r) else some (0, c :: rest)

/-- The rest after digits of another base, each group of which may have an underscore before it. -/
def baseDigits (isDigit : Char → Bool) : List Char → Option (List Char)
  | '_' :: d :: rest => if isDigit d then more rest else none
  | d :: rest => if isDigit d then more rest else none
  | [] => none
where
  /-- What follows the first digit. -/
  more : List Char → Option (List Char)
    | '_' :: d :: rest => if isDigit d then more rest else none
    | ['_'] => none
    | [] => some []
    | c :: rest => if isDigit c then more rest else some (c :: rest)

/-- A number of another base: no digit that is too great may follow it. -/
def based (isDigit : Char → Bool) (cs : List Char) : Option (Bool × List Char) := do
  let rest ← baseDigits isDigit cs
  if rest.head?.any Char.isDigit then none
  return (false, ← ended rest)

/-- The end of a number, which a `j` makes imaginary. -/
def imaginaryPart (cs : List Char) : Option (Bool × List Char) :=
  match cs with
  | c :: rest => if c = 'j' ∨ c = 'J' then (ended rest).map ((true, ·))
      else (ended cs).map ((false, ·))
  | [] => some (false, [])

/-- The exponent of a number if there is one, and its end. -/
def exponentPart (cs : List Char) : Option (Bool × List Char) :=
  match cs with
  | e :: rest =>
    if e = 'e' ∨ e = 'E' then
      match rest with
      | sign :: d :: more =>
        if sign = '+' ∨ sign = '-' then
          if d.isDigit then (digitTail more).bind fun (_, r) => imaginaryPart r else none
        else if sign.isDigit then (digitTail (d :: more)).bind fun (_, r) => imaginaryPart r
        else (ended cs).map ((false, ·))
      | [d] =>
        if d.isDigit then some (false, [])
        else if d = '+' ∨ d = '-' then none
        else (ended cs).map ((false, ·))
      | [] => (ended cs).map ((false, ·))
    else imaginaryPart cs
  | [] => some (false, [])

/-- The digits after a point, if any, and the end of the number. -/
def fractionPart (cs : List Char) : Option (Bool × List Char) :=
  match cs with
  | d :: rest =>
    if d.isDigit then (digitTail rest).bind fun (_, r) => exponentPart r else exponentPart cs
  | [] => some (false, [])

/-- Does a fraction, an exponent or an imaginary unit follow? -/
def goesOn (cs : List Char) : Bool :=
  cs.head?.any fun c => c = '.' || c = 'e' || c = 'E' || c = 'j' || c = 'J'

/-- What follows the whole part of a decimal number. -/
def afterWhole (cs : List Char) : Option (Bool × List Char) :=
  match cs with
  | '.' :: rest => fractionPart rest
  | cs => exponentPart cs

/-- Zeros with their underscores; the rest begins with another character. -/
def zeros : List Char → Option (List Char)
  | '_' :: d :: rest =>
    if d = '0' then zeros rest else if d.isDigit then some (d :: rest) else none
  | ['_'] => none
  | '0' :: rest => zeros rest
  | cs => some cs

def isHexDigit (c : Char) : Bool :=
  c.isDigit || ('a' ≤ c && c ≤ 'f') || ('A' ≤ c && c ≤ 'F')

def isOctalDigit (c : Char) : Bool := '0' ≤ c && c ≤ '7'

def isBinaryDigit (c : Char) : Bool := c = '0' || c = '1'

/-- A number whose leading zero has been read. Zeros before other digits need a fraction or the
like. -/
def afterZero (cs : List Char) : Option (Bool × List Char) :=
  match cs with
  | 'x' :: rest | 'X' :: rest => based isHexDigit rest
  | 'o' :: rest | 'O' :: rest => based isOctalDigit rest
  | 'b' :: rest | 'B' :: rest => based isBinaryDigit rest
  | cs => do
    let rest ← zeros cs
    match rest with
    | d :: more =>
      if d.isDigit then
        let (_, rest) ← digitTail more
        if goesOn rest then afterWhole rest else none
      else afterWhole rest
    | [] => return (false, [])

/-- Reads a number from a digit, or from a point with a digit after it. The answer says whether it
is imaginary. A whole decimal number may have only so many digits. -/
def read? (cs : List Char) : Option (Bool × List Char) :=
  match cs with
  | '.' :: rest => fractionPart rest
  | '0' :: rest => afterZero rest
  | _ :: rest => do
    let (count, rest) ← digitTail rest
    if !goesOn rest && Integer.maxDigits < count + 1 then none
    afterWhole rest
  | [] => none

end RetentionPlan.Source.Numeral
