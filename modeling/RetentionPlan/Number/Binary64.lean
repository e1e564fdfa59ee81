/-!
# Floating-point numbers of 64 bits

A number is held by its bits, so that every NaN keeps its own. Its value is a sign and a natural
mantissa times a power of two; comparisons and truncation are exact.
-/
namespace RetentionPlan

/-- A floating-point number by its bits. -/
structure Binary64 where
  bits : UInt64
  deriving DecidableEq, Repr, Inhabited

namespace Binary64

def ofFloat (f : Float) : Binary64 := ⟨f.toBits⟩

def toFloat (x : Binary64) : Float := Float.ofBits x.bits

def isNegative (x : Binary64) : Bool := Nat.pow 2 63 ≤ x.bits.toNat

def exponentField (x : Binary64) : Nat := x.bits.toNat / Nat.pow 2 52 % Nat.pow 2 11

/-- The fifty-two bits after the leading one. -/
def fraction (x : Binary64) : Nat := x.bits.toNat % Nat.pow 2 52

def isNaN (x : Binary64) : Bool := x.exponentField = 2047 && x.fraction ≠ 0

def isInfinite (x : Binary64) : Bool := x.exponentField = 2047 && x.fraction = 0

def isFinite (x : Binary64) : Bool := x.exponentField ≠ 2047

/-- The mantissa of a finite number, with the leading one that normal numbers leave out. -/
def mantissa (x : Binary64) : Nat :=
  if x.exponentField = 0 then x.fraction else Nat.pow 2 52 + x.fraction

/-- The power of two that the mantissa is multiplied by. -/
def exponent (x : Binary64) : Int :=
  if x.exponentField = 0 then -1074 else (x.exponentField : Int) - 1075

/-- Is the value zero, of either sign? -/
def isZero (x : Binary64) : Bool := x.exponentField = 0 && x.fraction = 0

/-- The value of a finite number scaled by 2^1074, which makes it an integer. -/
def scaled (x : Binary64) : Int :=
  let magnitude : Nat := x.mantissa * Nat.pow 2 (x.exponent + 1074).toNat
  if x.isNegative then -magnitude else magnitude

/-- Do two numbers have the same value? No NaN has one. -/
def sameValue (x y : Binary64) : Bool :=
  if x.isNaN || y.isNaN then false
  else if x.isInfinite || y.isInfinite then x.bits == y.bits
  else x.scaled == y.scaled

def isInteger (x : Binary64) (n : Int) : Bool := x.isFinite && x.scaled == n * Nat.pow 2 1074

/-- The value of a finite number without its fractional part. -/
def truncate (x : Binary64) : Int := x.scaled.tdiv (Nat.pow 2 1074)

/-- Every number that is not a NaN has its own value. -/
theorem sameValue_self {x : Binary64} (h : x.isNaN = false) : x.sameValue x = true := by
  simp [sameValue, h]

end Binary64
end RetentionPlan
