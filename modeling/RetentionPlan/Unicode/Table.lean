/-!
# Tables of code points

A table is held as text: numbers in base 16 with blanks between them. A set of code points is a
list of ascending ranges, written as the gap before each range and its length less one.
-/
namespace RetentionPlan.Unicode

/-- The value of a digit of base 16 in lower case. -/
def hexDigit? (c : Char) : Option Nat :=
  if '0' ≤ c ∧ c ≤ '9' then some (c.toNat - 0x30)
  else if 'a' ≤ c ∧ c ≤ 'f' then some (c.toNat - 0x57)
  else none

/-- Adds one character to the numbers read so far; `open?` is the number under way. -/
def readNumber (state : Array Nat × Option Nat) (c : Char) : Array Nat × Option Nat :=
  match hexDigit? c, state.2 with
  | some d, some n => (state.1, some (16 * n + d))
  | some d, none => (state.1, some d)
  | none, some n => (state.1.push n, none)
  | none, none => state

/-- The numbers written in a table's text. -/
def numbers (text : String) : Array Nat :=
  (readNumber (text.toList.foldl readNumber (#[], none)) ' ').1

/-- A set of code points as ascending, disjoint ranges. -/
structure CodePoints where
  /-- First and last member of each range. -/
  ranges : Array (Nat × Nat)

namespace CodePoints

/-- The ranges that gaps and lengths describe, the first gap counted from `next`. -/
def rangesFrom (next : Nat) : List Nat → List (Nat × Nat)
  | gap :: more :: rest =>
    (next + gap, next + gap + more) :: rangesFrom (next + gap + more + 1) rest
  | _ => []

/-- Reads a set from a table's text. -/
def ofText (text : String) : CodePoints := ⟨(rangesFrom 0 (numbers text).toList).toArray⟩

/-- Looks for `n` among the ranges with index in `[low, high)`, halving the interval. -/
def search (ranges : Array (Nat × Nat)) (n : Nat) : Nat → Nat → Nat → Bool
  | 0, _, _ => false
  | fuel + 1, low, high =>
    if low < high then
      let mid := (low + high) / 2
      let (first, last) := ranges.getD mid (0, 0)
      if n < first then search ranges n fuel low mid
      else if last < n then search ranges n fuel (mid + 1) high
      else true
    else false

def contains (s : CodePoints) (c : Char) : Bool :=
  search s.ranges c.toNat (s.ranges.size + 1) 0 s.ranges.size

end CodePoints
end RetentionPlan.Unicode
