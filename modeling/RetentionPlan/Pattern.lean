/-!
# Wildcard patterns

A pattern matches a whole text: `*` any run of characters, `?` any one, `[…]` one character of a
set, `[!…]` one outside it. There is no escape, and case counts. A bracket without its partner is
an ordinary character.
-/
namespace RetentionPlan.Pattern

/-- A set of characters: singles and ranges, or everything else. -/
structure CharSet where
  negated : Bool
  /-- First and last character of each range; a single character is a range by itself. -/
  ranges : List (Char × Char)
  deriving DecidableEq, Repr

def CharSet.contains (s : CharSet) (c : Char) : Bool :=
  s.ranges.any (fun (first, last) => first ≤ c && c ≤ last) != s.negated

inductive Piece where
  /-- Stands for any run of characters. -/
  | run
  /-- Stands for any one character. -/
  | any
  | one (c : Char)
  | set (s : CharSet)
  deriving DecidableEq, Repr

/-- Splits the text of a set at the hyphens that make ranges. The first `skip` characters of the
chunk under way (held in reverse) cannot be such hyphens. -/
def chunks (skip : Nat) (chunk : List Char) : List Char → List (List Char)
  | [] => [chunk.reverse]
  | c :: rest =>
    if skip = 0 ∧ c = '-' then chunk.reverse :: chunks 2 [] rest
    else chunks (skip - 1) (c :: chunk) rest

/-- Gives an empty last chunk back to the one before it as a plain hyphen. -/
def closeChunks : List (List Char) → List (List Char)
  | [chunk, []] => [chunk ++ ['-']]
  | chunk :: rest => chunk :: closeChunks rest
  | [] => []

/-- Puts a chunk before others; a range that runs backwards loses both its ends. -/
def joinChunk (chunk : List Char) : List (List Char) → List (List Char)
  | next :: rest =>
    match chunk.getLast?, next with
    | some a, b :: more => if b < a then (chunk.dropLast ++ more) :: rest else chunk :: next :: rest
    | _, _ => chunk :: next :: rest
  | [] => [chunk]

/-- The ranges of chunks: neighbouring ends make a range, other characters stand by themselves. -/
def rangesOf : List (List Char) → List (Char × Char)
  | [] => []
  | [chunk] => chunk.map fun c => (c, c)
  | chunk :: next :: rest =>
    match chunk.getLast?, next with
    | some a, b :: more => (chunk.dropLast.map fun c => (c, c)) ++ (a, b) :: rangesOf (more :: rest)
    | _, _ => (chunk.map fun c => (c, c)) ++ rangesOf (next :: rest)
termination_by cs => cs.length

/-- The set that the text between two brackets describes. -/
def CharSet.ofText (text : List Char) : CharSet :=
  let skip := if text.head? = some '!' then 2 else 1
  let pieces := (closeChunks (chunks skip [] text)).foldr joinChunk []
  match pieces with
  | ('!' :: chunk) :: rest => ⟨true, rangesOf (chunk :: rest)⟩
  | pieces => ⟨false, rangesOf pieces⟩

/-- The text of a set and what follows its closing bracket. A bracket in first place, or directly
after the sign of negation, does not close the set. -/
def setText (cs : List Char) : Option (List Char × List Char) :=
  let sign := match cs with
    | '!' :: _ => ['!']
    | _ => []
  let cs := cs.drop sign.length
  let first := match cs with
    | ']' :: _ => [']']
    | _ => []
  let cs := cs.drop first.length
  let body := cs.takeWhile (· ≠ ']')
  match cs.drop body.length with
  | _ :: rest => some (sign ++ first ++ body, rest)
  | [] => none

def piecesOf : Nat → List Char → List Piece
  | 0, _ => []
  | _, [] => []
  | fuel + 1, c :: rest =>
    if c = '*' then .run :: piecesOf fuel rest
    else if c = '?' then .any :: piecesOf fuel rest
    else if c = '[' then
      match setText rest with
      | some (text, rest) => .set (.ofText text) :: piecesOf fuel rest
      | none => .one '[' :: piecesOf fuel rest
    else .one c :: piecesOf fuel rest

def parse (s : String) : List Piece := piecesOf s.length s.toList

/-- Does the pattern match the whole text? -/
def matchesChars : List Piece → List Char → Bool
  | [], cs => cs.isEmpty
  | .run :: rest, [] => matchesChars rest []
  | .run :: rest, c :: cs => matchesChars rest (c :: cs) || matchesChars (.run :: rest) cs
  | .any :: rest, _ :: cs => matchesChars rest cs
  | .one a :: rest, c :: cs => a == c && matchesChars rest cs
  | .set s :: rest, c :: cs => s.contains c && matchesChars rest cs
  | _ :: _, [] => false
termination_by ps cs => (ps.length, cs.length)

def isMatch (pattern text : String) : Bool := matchesChars (parse pattern) text.toList

/-- Ordinary characters match themselves only. -/
theorem matchesChars_map_one {pattern text : List Char} :
    matchesChars (pattern.map .one) text = true ↔ pattern = text := by
  induction pattern generalizing text with
  | nil => cases text <;> simp [matchesChars]
  | cons a pattern ih => cases text <;> simp [matchesChars, ih]

end RetentionPlan.Pattern
