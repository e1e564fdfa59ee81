import RetentionPlan.Number.Integer
import RetentionPlan.Number.Shortest
import RetentionPlan.Text.Quoted

/-!
# Messages with places for values

A percent sign in a template begins a place: flags, a width, a precision and a letter say how the
next value is written there. A template and its values have to fit.
-/
namespace RetentionPlan.Text

inductive Value where
  | nothing
  | bool (b : Bool)
  | int (n : Int)
  | float (x : Binary64)
  | text (s : String)
  | list (items : List Value)
  deriving Repr, Inhabited

namespace Value

mutual
/-- A value as it stands within a list. -/
def inner : Value → String
  | nothing => "None"
  | bool b => if b then "True" else "False"
  | int n => toString n
  | float x => Shortest.Layout.plain.text x
  | text s => quoted s
  | list items => "[" ++ inners items ++ "]"

/-- Values separated by commas. -/
def inners : List Value → String
  | [] => ""
  | [v] => inner v
  | v :: rest => inner v ++ ", " ++ inners rest
end

/-- A value on its own: a text is not quoted. -/
def shown : Value → String
  | text s => s
  | v => inner v

/-- The integer that a number stands for. -/
def toInt? : Value → Option Int
  | bool b => some (if b then 1 else 0)
  | int n => some n
  | float x => if x.isFinite then some x.truncate else none
  | _ => none

def asInt? : Value → Option Int
  | float _ => none
  | v => v.toInt?

def toFloat? : Value → Option Binary64
  | float x => some x
  | v => v.toInt?.map fun n => Binary64.ofFloat (Float.ofInt n)

end Value

/-- What stands between the percent sign and the letter. -/
structure Spec where
  left : Bool := false
  zeros : Bool := false
  plus : Bool := false
  blank : Bool := false
  marked : Bool := false
  width : Nat := 0
  precision : Option Nat := none

/-- A text padded with blanks to the width. -/
def Spec.pad (spec : Spec) (s : String) : String :=
  let blanks := String.ofList (List.replicate (spec.width - s.length) ' ')
  if spec.left then s ++ blanks else blanks ++ s

/-- A number padded to the width: zeros stand between its head and its digits. -/
def Spec.padNumber (spec : Spec) (head digits : String) : String :=
  if spec.zeros && !spec.left then
    head ++ String.ofList (List.replicate (spec.width - head.length - digits.length) '0') ++ digits
  else spec.pad (head ++ digits)

def Spec.sign (spec : Spec) (negative : Bool) : String :=
  if negative then "-" else if spec.plus then "+" else if spec.blank then " " else ""

def Spec.text (spec : Spec) (s : String) : String :=
  spec.pad (match spec.precision with
    | some n => String.ofList (s.toList.take n)
    | none => s)

/-- An integer in a base with at least as many digits as the precision says. -/
def Spec.int (spec : Spec) (base : Nat) (mark : String) (upper : Bool) (n : Int) : String :=
  let digits := Nat.toDigits base n.natAbs
  let digits := if upper then digits.map Char.toUpper else digits
  let digits := List.replicate (spec.precision.getD 0 - digits.length) '0' ++ digits
  spec.padNumber (spec.sign (n < 0) ++ (if spec.marked then mark else "")) (String.ofList digits)

/-- A quotient rounded to the nearest integer; a half goes to the even neighbour. -/
def roundDiv (n d : Nat) : Nat :=
  let q := n / d
  let r := 2 * (n % d)
  if d < r ∨ (r = d ∧ q % 2 = 1) then q + 1 else q

/-- A number with as many places after the point as the precision says. -/
def Spec.fixed (spec : Spec) (x : Binary64) : String :=
  if x.isNaN then spec.pad (spec.sign false ++ "nan")
  else if x.isInfinite then spec.pad (spec.sign x.isNegative ++ "inf")
  else
    let places := spec.precision.getD 6
    let digits := Nat.toDigits 10 (roundDiv (x.scaled.natAbs * Nat.pow 10 places) (Nat.pow 2 1074))
    let digits := List.replicate (places + 1 - digits.length) '0' ++ digits
    let whole := String.ofList (digits.take (digits.length - places))
    let fraction := String.ofList (digits.drop (digits.length - places))
    let body := if places = 0 then (if spec.marked then whole ++ "." else whole)
      else whole ++ "." ++ fraction
    spec.padNumber (spec.sign x.isNegative) body

def Spec.write (spec : Spec) (letter : Char) (v : Value) : Option String :=
  if letter = 's' then some (spec.text v.shown)
  else if letter = 'r' ∨ letter = 'a' then some (spec.text v.inner)
  else if letter = 'd' ∨ letter = 'i' ∨ letter = 'u' then v.toInt?.map (spec.int 10 "" false)
  else if letter = 'x' then v.asInt?.map (spec.int 16 "0x" false)
  else if letter = 'X' then v.asInt?.map (spec.int 16 "0X" true)
  else if letter = 'o' then v.asInt?.map (spec.int 8 "0o" false)
  else if letter = 'f' ∨ letter = 'F' then v.toFloat?.map spec.fixed
  else if letter = 'c' then
    match v with
    | .text s => if s.length = 1 then some (spec.pad s) else none
    | v => v.asInt?.map fun n => spec.pad (String.singleton (Char.ofNat n.toNat))
  else none

/-- A number of the template, or the next value in its place. -/
def count (cs : List Char) (values : List Value) : Option (Option Int × List Char × List Value) :=
  match cs with
  | '*' :: rest =>
    match values with
    | .int n :: values => some (some n, rest, values)
    | _ => none
  | _ =>
    let digits := cs.takeWhile Char.isDigit
    let n := digits.foldl (fun n c => 10 * n + (c.toNat - '0'.toNat)) 0
    some (if digits = [] then none else some (n : Int), cs.dropWhile Char.isDigit, values)

def flags (spec : Spec) : List Char → Spec × List Char
  | '-' :: rest => flags { spec with left := true } rest
  | '0' :: rest => flags { spec with zeros := true } rest
  | '+' :: rest => flags { spec with plus := true } rest
  | ' ' :: rest => flags { spec with blank := true } rest
  | '#' :: rest => flags { spec with marked := true } rest
  | cs => (spec, cs)

/-- Reads a place and writes the value that belongs there. -/
def place (cs : List Char) (values : List Value) : Option (String × List Char × List Value) := do
  let (spec, cs) := flags {} cs
  let (width, cs, values) ← count cs values
  let width := width.getD 0
  let spec := { spec with left := spec.left || width < 0, width := width.natAbs }
  let (spec, cs, values) ← match cs with
    | '.' :: rest => do
      let (n, cs, values) ← count rest values
      some ({ spec with precision := some (n.getD 0).toNat }, cs, values)
    | cs => some (spec, cs, values)
  match cs.dropWhile fun c => c = 'h' ∨ c = 'l' ∨ c = 'L' with
  | '%' :: rest => some ("%", rest, values)
  | letter :: rest =>
    match values with
    | v :: values => do some (← spec.write letter v, rest, values)
    | [] => none
  | [] => none

/-- Fills in a template from left to right. All values have to be used. -/
def fillFrom (fuel : Nat) (cs : List Char) (values : List Value) : Option String :=
  match fuel, cs with
  | 0, _ => none
  | _, [] => if values.isEmpty then some "" else none
  | fuel + 1, '%' :: rest => do
    let (written, rest, values) ← place rest values
    return written ++ (← fillFrom fuel rest values)
  | fuel + 1, c :: rest => do return String.singleton c ++ (← fillFrom fuel rest values)

/-- A message made of a template. Without values, percent signs are nothing special. -/
def fill (template : String) (values : List Value) : Option String :=
  if values.isEmpty then some template
  else fillFrom (template.length + 1) template.toList values

end RetentionPlan.Text
