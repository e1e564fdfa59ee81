import RetentionPlan.Number.Binary64

/-!
# The shortest decimal of a floating-point number

Of all decimals that round to a number, the one with the fewest digits is written, and of several
such the nearest. The reals that round to `m · 2^q` form an interval with half a step on either
side, ends included when `m` is even. All tests are made in natural numbers.
-/
namespace RetentionPlan.Shortest

/-- A positive decimal: `digits · 10^exponent`. -/
structure Decimal where
  digits : Nat
  exponent : Int
  deriving DecidableEq, Repr

/-- The reals that round to a number, scaled to natural numbers: the number itself is
`value / unit`, and `lower` and `upper` are the ends in the same unit. -/
structure Interval where
  lower : Nat
  value : Nat
  upper : Nat
  unit : Nat
  closed : Bool
  deriving Repr

/-- The interval around a positive finite number. Below a power of two the step is half as wide. -/
def Interval.of (x : Binary64) : Interval :=
  let m := x.mantissa
  let e := x.exponent
  let scale : Nat := Nat.pow 2 e.toNat
  let unit : Nat := 4 * Nat.pow 2 (-e).toNat
  let below := if x.fraction = 0 ∧ 1 < x.exponentField then 1 else 2
  ⟨(4 * m - below) * scale, 4 * m * scale, (4 * m + 2) * scale, unit, m % 2 = 0⟩

/-- The value of a decimal in the unit of an interval, with the factor that makes both natural:
compare `(scaledDecimal d i).1` with `_ * (scaledDecimal d i).2`. -/
def scaledDecimal (d : Decimal) (unit : Nat) : Nat × Nat :=
  (d.digits * Nat.pow 10 d.exponent.toNat * unit, Nat.pow 10 (-d.exponent).toNat)

def readsBack (i : Interval) (d : Decimal) : Bool :=
  let (n, k) := scaledDecimal d i.unit
  if i.closed then i.lower * k ≤ n && n ≤ i.upper * k
  else i.lower * k < n && n < i.upper * k

def distance (i : Interval) (d : Decimal) : Nat :=
  let (n, k) := scaledDecimal d i.unit
  let v := i.value * k
  if n ≤ v then v - n else n - v

/-- The number of decimal digits of a natural number. -/
def digitCount (n : Nat) : Nat := (Nat.toDigits 10 n).length

/-- The exponent of ten of the leading digit of the number, or one less. -/
def leadingExponent (i : Interval) : Int :=
  if i.unit ≤ i.value then (digitCount (i.value / i.unit) : Int) - 1
  else -(digitCount (i.unit / i.value) : Int)

/-- The multiple of `10^exponent` just below the number. -/
def floorAt (i : Interval) (exponent : Int) : Nat :=
  i.value * Nat.pow 10 (-exponent).toNat / (i.unit * Nat.pow 10 exponent.toNat)

/-- The better of the two neighbours of the number on one decimal grid, if one rounds to it. A tie
goes to the even neighbour. -/
def onGrid (i : Interval) (exponent : Int) : Option Decimal :=
  let n := floorAt i exponent
  let low : Decimal := ⟨n, exponent⟩
  let high : Decimal := ⟨n + 1, exponent⟩
  let lowFits := readsBack i low && n ≠ 0
  match lowFits, readsBack i high with
  | false, false => none
  | true, false => some low
  | false, true => some high
  | true, true =>
    let a := distance i low
    let b := distance i high
    some (if a < b then low else if b < a then high else if n % 2 = 0 then low else high)

def search (i : Interval) : Nat → Int → Option Decimal
  | 0, _ => none
  | tries + 1, exponent =>
    match onGrid i exponent with
    | some d => some d
    | none => search i tries (exponent - 1)

/-- Drops zeros at the end. -/
def strip : Nat → Decimal → Decimal
  | 0, d => d
  | fuel + 1, d =>
    if d.digits % 10 = 0 ∧ d.digits ≠ 0 then strip fuel ⟨d.digits / 10, d.exponent + 1⟩ else d

/-- The shortest decimal of a positive finite number. -/
def decimal (x : Binary64) : Decimal :=
  let i := Interval.of x
  let found := (search i 20 (leadingExponent i + 1)).getD ⟨x.mantissa, x.exponent⟩
  strip (digitCount found.digits) found

/-- How decimals are laid out. -/
structure Layout where
  /-- The exponents of the leading digit that are written without an exponent. -/
  plainFrom : Int
  plainBelow : Int
  /-- The least number of digits of a written exponent. -/
  exponentWidth : Nat
  notANumber : String
  infinite : String

/-- Positional from ten thousandths up to sixteen digits before the point, with two digits of
exponent beyond. -/
def Layout.plain : Layout := ⟨-4, 16, 2, "nan", "inf"⟩

/-- Digits and exponent of a positive decimal under a layout. -/
def Layout.digits (layout : Layout) (d : Decimal) : String :=
  let ds := Nat.toDigits 10 d.digits
  let lead : Int := d.exponent + ds.length - 1
  if layout.plainFrom ≤ lead ∧ lead < layout.plainBelow then
    if 0 ≤ d.exponent then
      String.ofList (ds ++ List.replicate d.exponent.toNat '0' ++ ['.', '0'])
    else if 0 ≤ lead then
      String.ofList (ds.take (lead.toNat + 1) ++ '.' :: ds.drop (lead.toNat + 1))
    else
      String.ofList (['0', '.'] ++ List.replicate (-lead - 1).toNat '0' ++ ds)
  else
    let body := match ds with
      | first :: second :: rest => first :: '.' :: second :: rest
      | ds => ds
    let e := Nat.toDigits 10 lead.natAbs
    let sign := if lead < 0 then '-' else '+'
    String.ofList (body ++ ['e', sign] ++ List.replicate (layout.exponentWidth - e.length) '0' ++ e)

def Layout.text (layout : Layout) (x : Binary64) : String :=
  let sign := if x.isNegative then "-" else ""
  if x.isNaN then layout.notANumber
  else if x.isInfinite then sign ++ layout.infinite
  else if x.isZero then sign ++ "0.0"
  else sign ++ layout.digits (decimal x)

end RetentionPlan.Shortest
