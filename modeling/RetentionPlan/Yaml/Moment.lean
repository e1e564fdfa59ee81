/-!
# Days and points in time

A day, or a day with a time and perhaps the distance of its zone from the common time.
-/
namespace RetentionPlan.Yaml

/-- The time of a day in hours, minutes and seconds. The zone is given by its distance in
minutes. -/
structure DayTime where
  hour : Nat
  minute : Nat
  second : Nat
  zone : Nat
  deriving DecidableEq, Repr

/-- A day, or a point in time. -/
structure Moment where
  year : Nat
  month : Nat
  day : Nat
  time : Option DayTime
  deriving DecidableEq, Repr

namespace Moment

def monthLength (year month : Nat) : Nat :=
  if month = 2 then
    if year % 4 = 0 ∧ (year % 100 ≠ 0 ∨ year % 400 = 0) then 29 else 28
  else if month = 4 ∨ month = 6 ∨ month = 9 ∨ month = 11 then 30
  else 31

/-- Is there such a time of day? The zone is less than a day away. -/
def isTime (t : DayTime) : Bool := t.hour < 24 && t.minute < 60 && t.second < 60 && t.zone < 24 * 60

def isReal (m : Moment) : Bool :=
  1 ≤ m.year && 1 ≤ m.month && m.month ≤ 12 && 1 ≤ m.day && m.day ≤ monthLength m.year m.month &&
    m.time.all isTime

/-- The number of digits at the head of a text. -/
def digits (low high : Nat) (cs : List Char) : Option (Nat × List Char) :=
  let run := (cs.take high).takeWhile Char.isDigit
  if run.length < low then none
  else some (run.foldl (fun n c => 10 * n + (c.toNat - '0'.toNat)) 0, cs.drop run.length)

def after (c : Char) : List Char → Option (List Char)
  | d :: rest => if d = c then some rest else none
  | [] => none

/-- Is the character a blank or a tab? -/
def isGap (c : Char) : Bool := c = ' ' || c = '\t'

/-- What separates the day from the time: a letter, or blanks. -/
def afterDay : List Char → Option (List Char)
  | [] => none
  | c :: rest =>
    if c = 'T' ∨ c = 't' then some rest
    else if isGap c then some (rest.dropWhile isGap)
    else none

/-- The distance of the zone, which may be left out. -/
def zone? (cs : List Char) : Option Nat :=
  match cs, cs.dropWhile isGap with
  | [], _ => some 0
  | _, ['Z'] => some 0
  | _, sign :: rest =>
    if sign = '+' ∨ sign = '-' then
      match digits 1 2 rest with
      | none => none
      | some (hours, []) => some (60 * hours)
      | some (hours, rest) =>
        match (after ':' rest).bind (digits 2 2) with
        | some (minutes, []) => some (60 * hours + minutes)
        | _ => none
    else none
  | _, [] => none

/-- The time after the day. Parts of a second are passed over. -/
def time? (cs : List Char) : Option DayTime := do
  let (hour, rest) ← digits 1 2 (← afterDay cs)
  let (minute, rest) ← digits 2 2 (← after ':' rest)
  let (second, rest) ← digits 2 2 (← after ':' rest)
  let rest := match rest with
    | '.' :: rest => rest.dropWhile Char.isDigit
    | rest => rest
  return ⟨hour, minute, second, ← zone? rest⟩

/-- Reads a day, or a point in time. It need not be real. -/
def read? (cs : List Char) : Option Moment := do
  let (year, rest) ← digits 4 4 cs
  let (month, rest) ← digits 1 2 (← after '-' rest)
  let (day, rest) ← digits 1 2 (← after '-' rest)
  if rest = [] then return ⟨year, month, day, none⟩
  return ⟨year, month, day, some (← time? rest)⟩

/-- Does a text have the form of a day or a point in time when nothing says that it is one? A day
alone then needs all its digits. -/
def isEvident (cs : List Char) : Bool :=
  match read? cs with
  | none => false
  | some m => m.time.isSome || cs.length = 10

end Moment
end RetentionPlan.Yaml
