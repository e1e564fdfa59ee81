import RetentionPlan.Number.Binary64
import RetentionPlan.Number.Integer

/-!
# Floating-point numbers from decimals

A decimal has an optional sign, digits of any script with an optional point among them, and an
optional exponent; or it is a word for an infinite number or for no number. White space may stand
around it.
-/
namespace RetentionPlan.Binary64

/-- The number nearest to `± digits · 10^exponent`. Exponents far outside the range are settled
without computing the power. -/
def ofDecimal (negative : Bool) (digits : Nat) (exponent : Int) : Binary64 :=
  let size : Int := (Nat.toDigits 10 digits).length
  let magnitude : Float :=
    if digits = 0 ∨ exponent + size < -400 then 0.0
    else if 400 < exponent + size then 1.0 / 0.0
    else if exponent < 0 then Float.ofScientific digits true exponent.natAbs
    else Float.ofScientific digits false exponent.natAbs
  ofFloat (if negative then -magnitude else magnitude)

def nan : Binary64 := ⟨0x7FF8000000000000⟩

def infinite (negative : Bool) : Binary64 :=
  ⟨if negative then 0xFFF0000000000000 else 0x7FF0000000000000⟩

def negate (x : Binary64) : Binary64 := ⟨x.bits ^^^ 0x8000000000000000⟩

/-- The digits at the head of a text, and what follows. -/
def digitRun (cs : List Char) : List Nat × List Char :=
  ((cs.takeWhile Char.isDigit).map fun c => c.toNat - '0'.toNat, cs.dropWhile Char.isDigit)

/-- The exponent at the end of a decimal: nothing, or a letter and an integer. -/
def exponent? : List Char → Option Int
  | [] => some 0
  | c :: rest =>
    if c ≠ 'e' ∧ c ≠ 'E' then none
    else
      let (negative, body) := Integer.signed rest
      match digitRun body with
      | ([], _) => none
      | (digits, []) =>
        let n := Integer.ofDigits 10 digits
        some (if negative then -(n : Int) else n)
      | _ => none

/-- Reads a decimal with Western digits and nothing around it. -/
def parseDigits (cs : List Char) : Option Binary64 := do
  let (negative, body) := Integer.signed cs
  match String.ofList (body.map Char.toLower) with
  | "inf" | "infinity" => return infinite negative
  | "nan" => return nan
  | _ =>
    let (whole, rest) := digitRun body
    let (fraction, rest) := match rest with
      | '.' :: rest => digitRun rest
      | rest => ([], rest)
    if whole = [] ∧ fraction = [] then none
    let exponent ← exponent? rest
    return ofDecimal negative (Integer.ofDigits 10 (whole ++ fraction)) (exponent - fraction.length)

/-- The Western digit for a digit of any script. -/
def westernDigit (c : Char) : Char :=
  match Unicode.digitValue? c with
  | some n => Char.ofNat ('0'.toNat + n)
  | none => c

def parse (s : String) : Option Binary64 :=
  parseDigits ((Integer.trimmed s.toList).map westernDigit)

end RetentionPlan.Binary64
