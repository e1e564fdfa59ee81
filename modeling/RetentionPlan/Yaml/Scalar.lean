import RetentionPlan.Number.Decimal
import RetentionPlan.Text.Base64
import RetentionPlan.Unicode.Lowercase
import RetentionPlan.Yaml.Error
import RetentionPlan.Yaml.Kind

/-!
# Values of scalars

The value of a text as a value of a given kind. The text need not have the form by which the kind is
recognised; these readers take more, and refuse the rest in their own ways.
-/
namespace RetentionPlan.Yaml.Scalar

/-- A truth value, by one of six words in letters of either case. -/
def bool (text : String) : Except Error Bool :=
  match Unicode.lowercase text with
  | "yes" | "true" | "on" => .ok true
  | "no" | "false" | "off" => .ok false
  | _ => .error .notBool

def numeral (base : Nat) (cs : List Char) : Except Error Int :=
  match Integer.parseIn base (String.ofList cs) with
  | some n => .ok n
  | none => .error .notNumber

def ofPlaces (places : List Int) : Int := places.foldl (fun n d => 60 * n + d) 0

/-- An integer: binary, octal, decimal, hexadecimal, or in base 60 with colons between the
places. -/
def int (text : String) : Except Error Int := do
  let (negative, body) := Integer.signed (text.toList.filter (· ≠ '_'))
  let n ← match body with
    | [] => throw .noDigits
    | ['0'] => pure 0
    | '0' :: 'b' :: rest => numeral 2 rest
    | '0' :: 'x' :: rest => numeral 16 rest
    | '0' :: _ => numeral 8 body
    | _ =>
      if body.contains ':' then
        pure (ofPlaces (← (Kind.cutAt ':' body).mapM (numeral 10)))
      else numeral 10 body
  return if negative then -n else n

def decimal (cs : List Char) : Except Error Binary64 :=
  match Binary64.parse (String.ofList cs) with
  | some x => .ok x
  | none => .error .notNumber

/-- The most places in base 60 of which each has a weight that is a number with a point. -/
def maxPlaces : Nat := 174

/-- The number of places in base 60, the last one first: every place times its weight is rounded,
and so is every sum. -/
def sumPlaces : List Binary64 → Nat → Float → Float
  | [], _, sum => sum
  | x :: rest, weight, sum =>
    sumPlaces rest (60 * weight) (sum + x.toFloat * (Binary64.ofDecimal false weight 0).toFloat)

/-- A number with a point, or an infinite one, or none. The places before the point may be in base
60. -/
def float (text : String) : Except Error Binary64 := do
  let cs := (Unicode.lowercase (String.ofList (text.toList.filter (· ≠ '_')))).toList
  if cs = [] then throw .noDigits
  let (negative, body) := Integer.signed cs
  let x ← match String.ofList body with
    | ".inf" => pure (Binary64.infinite false)
    | ".nan" => pure Binary64.nan
    | _ =>
      if body.contains ':' then
        let places ← (Kind.cutAt ':' body).mapM decimal
        if maxPlaces < places.length then throw .tooManyPlaces
        pure (Binary64.ofFloat (sumPlaces places.reverse 1 0.0))
      else decimal body
  return if negative then x.negate else x

def bytes (text : String) : Except Error (List UInt8) :=
  if text.toList.all (·.toNat < 0x80) then
    match Base64.decode text with
    | some bs => .ok bs
    | none => .error .malformed
  else .error .malformed

/-- A day or a point in time, which has to be real. -/
def moment (text : String) : Except Error Moment :=
  match Moment.read? (Kind.lineOf text) with
  | none => .error .notMoment
  | some m => if m.isReal then .ok m else .error .noMoment

end RetentionPlan.Yaml.Scalar
