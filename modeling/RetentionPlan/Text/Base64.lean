/-!
# Bytes in base 64

Four characters of an alphabet of 64 stand for three bytes; equals signs fill up the last group.
Characters that do not belong to the alphabet are passed over, and nothing counts after a group that
is filled up.
-/
namespace RetentionPlan.Base64

/-- The value of a character of the alphabet. -/
def digit? (c : Char) : Option Nat :=
  if c.isUpper then some (c.toNat - 'A'.toNat)
  else if c.isLower then some (c.toNat - 'a'.toNat + 26)
  else if c.isDigit then some (c.toNat - '0'.toNat + 52)
  else if c = '+' then some 62
  else if c = '/' then some 63
  else none

/-- The characters of a group that were read: none, or one to three with their bits that are in no
byte yet. -/
inductive Group where
  | empty
  | one (bits : Nat)
  | two (bits : Nat)
  | three (bits : Nat)

namespace Group

/-- Adds a character of the alphabet; the byte that is complete with it. -/
def add (group : Group) (d : Nat) : Group × List Nat :=
  match group with
  | empty => (one d, [])
  | one bits => (two (d % 16), [bits * 4 + d / 16])
  | two bits => (three (d % 4), [bits * 16 + d / 4])
  | three bits => (empty, [bits * 64 + d])

/-- Do so many equals signs fill the group up? -/
def isFilledBy (group : Group) (pads : Nat) : Bool :=
  match group with
  | empty | one _ => false
  | two _ => 2 ≤ pads
  | three _ => 1 ≤ pads

end Group

/-- The bytes of a text in base 64. `pads` equals signs stand just before it, and `group` before
them. -/
def decodeFrom (group : Group) (pads : Nat) : List Char → Option (List Nat)
  | [] =>
    match group with
    | .empty => some []
    | _ => none
  | '=' :: rest =>
    let pads := match group with
      | .two _ | .three _ => pads + 1
      | _ => pads
    if group.isFilledBy pads then some [] else decodeFrom group pads rest
  | c :: rest =>
    match digit? c with
    | none => decodeFrom group pads rest
    | some d =>
      let (group, bytes) := group.add d
      (decodeFrom group 0 rest).map (bytes ++ ·)

/-- The bytes of a text in base 64. -/
def decode (s : String) : Option (List UInt8) :=
  (decodeFrom .empty 0 s.toList).map (·.map UInt8.ofNat)

end RetentionPlan.Base64
