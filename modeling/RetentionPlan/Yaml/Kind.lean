import RetentionPlan.Yaml.Moment

/-!
# Kinds of nodes

The kind of a node is given by its tag. Plain text without a tag has the kind that its form shows.
-/
namespace RetentionPlan.Yaml

/-- What kind of value a node stands for. -/
inductive Kind where
  | null
  | bool
  | int
  | float
  | bytes
  | moment
  | text
  | sequence
  | mapping
  /-- A mapping whose entries are in order, as a sequence of mappings with one entry. -/
  | orderedMapping
  /-- Pairs, as a sequence of mappings with one entry. -/
  | pairs
  /-- A set, as a mapping whose keys are the members. -/
  | set
  /-- A key whose value is mixed into the mapping. -/
  | merge
  /-- A key whose value the mapping stands for where text is wanted. -/
  | default
  /-- A kind that has no values. -/
  | unknown
  deriving DecidableEq, Repr

namespace Kind

def ofTag (tag : String) : Kind :=
  match tag with
  | "tag:yaml.org,2002:null" => null
  | "tag:yaml.org,2002:bool" => bool
  | "tag:yaml.org,2002:int" => int
  | "tag:yaml.org,2002:float" => float
  | "tag:yaml.org,2002:binary" => bytes
  | "tag:yaml.org,2002:timestamp" => moment
  | "tag:yaml.org,2002:str" => text
  | "tag:yaml.org,2002:seq" => sequence
  | "tag:yaml.org,2002:map" => mapping
  | "tag:yaml.org,2002:omap" => orderedMapping
  | "tag:yaml.org,2002:pairs" => pairs
  | "tag:yaml.org,2002:set" => set
  | "tag:yaml.org,2002:merge" => merge
  | "tag:yaml.org,2002:value" => default
  | _ => unknown

def boolWords : List String :=
  ["yes", "Yes", "YES", "no", "No", "NO", "true", "True", "TRUE", "false", "False", "FALSE",
    "on", "On", "ON", "off", "Off", "OFF"]

def nullWords : List String := ["", "~", "null", "Null", "NULL"]

/-- A numeral without its sign. -/
def unsigned : List Char → List Char
  | '+' :: rest | '-' :: rest => rest
  | cs => cs

/-- Digits and underscores. -/
def isDigitOrGap (c : Char) : Bool := c.isDigit || c = '_'

/-- Is the text digits and underscores with a digit in front? -/
def isDigits (cs : List Char) : Bool := cs.head?.any Char.isDigit && cs.all isDigitOrGap

/-- Is the text a place of a numeral in base 60, after the first? -/
def isPlace : List Char → Bool
  | [d] => d.isDigit
  | [t, d] => '0' ≤ t && t ≤ '5' && d.isDigit
  | _ => false

def cutAt (mark : Char) : List Char → List (List Char)
  | [] => [[]]
  | c :: rest =>
    match cutAt mark rest with
    | [] => []
    | head :: tail => if c = mark then [] :: head :: tail else (c :: head) :: tail

/-- Has an unsigned text the form of places in base 60, of which the first is of a kind? -/
def isPlaces (isFirst : List Char → Bool) (cs : List Char) : Bool :=
  match cutAt ':' cs with
  | first :: place :: places => isFirst first && (place :: places).all isPlace
  | _ => false

/-- Has a text the form of an integer? -/
def isInt (cs : List Char) : Bool :=
  match unsigned cs with
  | ['0'] => true
  | '0' :: 'b' :: rest => rest ≠ [] && rest.all fun c => c = '0' || c = '1' || c = '_'
  | '0' :: 'x' :: rest => rest ≠ [] && rest.all isHex
  | '0' :: rest => rest.all fun c => ('0' ≤ c && c ≤ '7') || c = '_'
  | cs => isDigits cs || isPlaces isDigits cs
where
  /-- Digits of base 16, and underscores. -/
  isHex (c : Char) : Bool :=
    isDigitOrGap c || ('a' ≤ c && c ≤ 'f') || ('A' ≤ c && c ≤ 'F')

def isExponent : List Char → Bool
  | [] => true
  | e :: sign :: d :: rest =>
    (e = 'e' || e = 'E') && (sign = '+' || sign = '-') && d.isDigit && rest.all Char.isDigit
  | _ => false

/-- The two sides of the first point. -/
def atPoint (cs : List Char) : Option (List Char × List Char) :=
  match cs.dropWhile (· ≠ '.') with
  | _ :: rest => some (cs.takeWhile (· ≠ '.'), rest)
  | [] => none

/-- Has a text the form of a number with a point? -/
def isFloat (cs : List Char) : Bool :=
  match atPoint (unsigned cs) with
  | none => false
  | some ([], rest) =>
    ["inf", "Inf", "INF"].contains (String.ofList rest) ||
      (unsigned cs).length = cs.length &&
        (["nan", "NaN", "NAN"].contains (String.ofList rest) ||
          rest.head?.any Char.isDigit && isExponent (rest.dropWhile isDigitOrGap))
  | some (whole, rest) =>
    isDigits whole && isExponent (rest.dropWhile isDigitOrGap) ||
      isPlaces isDigits whole && rest.all isDigitOrGap

/-- A text without the end of a line at its end. -/
def lineOf (text : String) : List Char :=
  let cs := text.toList
  if cs.getLast? = some '\n' then cs.dropLast else cs

def ofPlain (text : String) : Kind :=
  if text = "" then null
  else if text = "\n" then .text
  else
    let cs := lineOf text
    let line := String.ofList cs
    if boolWords.contains line then bool
    else if isFloat cs then float
    else if isInt cs then int
    else if line = "<<" then merge
    else if nullWords.contains line then null
    else if Moment.isEvident cs then moment
    else if line = "=" then default
    else if line = "!" ∨ line = "&" ∨ line = "*" then unknown
    else .text

end Kind
end RetentionPlan.Yaml
