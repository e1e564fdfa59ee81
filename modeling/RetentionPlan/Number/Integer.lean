import RetentionPlan.Unicode.Blank
import RetentionPlan.Unicode.Decimal

/-!
# Integers as text

A numeral has an optional sign and digits, decimal ones of any script, with single underscores
between them, and white space around it. Conversions in either direction stop at a fixed number of
digits, unless the base is a power of two.
-/
namespace RetentionPlan.Integer

/-- The greatest number of digits that is converted. -/
def maxDigits : Nat := 4300

/-- White space that may stand around a numeral: the information separators may not. -/
def isAround (c : Char) : Bool := Unicode.isBlank c && !(0x1C ≤ c.toNat && c.toNat ≤ 0x1F)

/-- A text without the white space that may stand around a numeral. -/
def trimmed (cs : List Char) : List Char :=
  ((cs.dropWhile isAround).reverse.dropWhile isAround).reverse

/-- The value of a digit in a base. Latin letters go on after the nine. -/
def digitIn? (base : Nat) (c : Char) : Option Nat :=
  let value :=
    if 'a' ≤ c ∧ c ≤ 'z' then some (c.toNat - 'a'.toNat + 10)
    else if 'A' ≤ c ∧ c ≤ 'Z' then some (c.toNat - 'A'.toNat + 10)
    else Unicode.digitValue? c
  value.filter (· < base)

/-- The values of the digits of a numeral without sign. An underscore stands between two digits. -/
def digitValues (base : Nat) : List Char → Option (List Nat)
  | [] => none
  | [c] => (digitIn? base c).map ([·])
  | c :: '_' :: rest => do return (← digitIn? base c) :: (← digitValues base rest)
  | c :: rest => do return (← digitIn? base c) :: (← digitValues base rest)

def ofDigits (base : Nat) (digits : List Nat) : Nat := digits.foldl (fun n d => base * n + d) 0

/-- The sign at the head of a numeral, and what follows. -/
def signed : List Char → Bool × List Char
  | '-' :: rest => (true, rest)
  | '+' :: rest => (false, rest)
  | cs => (false, cs)

/-- The letter that may stand after a zero to name the base. -/
def baseLetter? : Nat → Option Char
  | 2 => some 'b'
  | 8 => some 'o'
  | 16 => some 'x'
  | _ => none

/-- What follows the name of the base, if that is given; an underscore may separate it. -/
def afterBase (base : Nat) (cs : List Char) : List Char :=
  match cs with
  | '0' :: c :: rest =>
    if baseLetter? base = some c.toLower then
      match rest with
      | '_' :: rest => rest
      | rest => rest
    else cs
  | cs => cs

/-- Reads a numeral in a base without white space around it. -/
def parseTrimmed (base : Nat) (cs : List Char) : Option Int := do
  let (negative, body) := signed cs
  let digits ← digitValues base (afterBase base body)
  if (baseLetter? base).isNone && maxDigits < digits.length then none
  else
    let n := ofDigits base digits
    some (if negative then -(n : Int) else n)

def parseIn (base : Nat) (s : String) : Option Int := parseTrimmed base (trimmed s.toList)

/-- Reads a decimal numeral. -/
def parse (s : String) : Option Int := parseIn 10 s

/-- White space in a numeral of bytes. -/
def isByteBlank (b : UInt8) : Bool := (9 ≤ b && b ≤ 13) || b == 32

/-- Reads a numeral of bytes, in which only the first 128 characters count. -/
def parseBytes (bytes : List UInt8) : Option Int :=
  let body := ((bytes.dropWhile isByteBlank).reverse.dropWhile isByteBlank).reverse
  if body.all (· < 128) then parseTrimmed 10 (body.map fun b => Char.ofNat b.toNat) else none

/-- The decimal text of an integer, unless it is too long to be converted. -/
def text? (n : Int) : Option String :=
  let s := toString n
  if maxDigits < (toString n.natAbs).length then none else some s

end RetentionPlan.Integer
