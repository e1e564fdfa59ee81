import RetentionPlan.Yaml.Cursor

/-!
# Plain text

Text without quotes goes on as long as nothing in it can be taken for a mark. Lines of it are
joined: a single end of a line becomes a blank, and of several all but the first stay.
-/
namespace RetentionPlan.Yaml

/-- Does a colon before `next` end plain text? -/
def colonEnds (flow : Bool) (next : Option Char) : Bool :=
  endsWord next || (flow && next.any [',', '[', ']', '\x7b', '\x7d'].contains)

/-- The part of a line that is plain text. -/
def plainStretch (flow : Bool) : List Char → List Char
  | [] => []
  | c :: rest =>
    if endsWord (some c) || (c = ':' && colonEnds flow rest.head?) ||
        (flow && [',', '?', '[', ']', '\x7b', '\x7d'].contains c) then []
    else c :: plainStretch flow rest

/-- The text that ends of lines fold to: `first` and then `others`. -/
def foldBreaks (first : Char) (others : List Char) : List Char :=
  if first ≠ '\n' then first :: others
  else if others = [] then [' ']
  else others

/-- Empty lines and the blanks at the head of the next one; none before a mark between documents. -/
def emptyLines : Nat → Scan (Option (List Char))
  | 0 => Scan.malformed
  | fuel + 1 => do
    Scan.skipBlanks
    match ← Scan.lineBreak? with
    | none => return some []
    | some x =>
      if (← get).atSeparator then return none
      return (← emptyLines fuel).map (x :: ·)

/-- What stands between two stretches of plain text, and whether a line ended in it. Nothing stands
there if the text is over. -/
def plainGap : Scan (List Char × Bool) := do
  let blanks ← Scan.takeWhile (· = ' ')
  match ← Scan.lineBreak? with
  | none => return (blanks, false)
  | some first =>
    if (← get).atSeparator then return ([], true)
    match ← emptyLines ((← get).rest.length + 1) with
    | none => return ([], true)
    | some others => return (foldBreaks first others, true)

/-- Plain text of which `read` was read and `gap` passed; `newLine` tells whether a line ended in
the gap. Answers also whether the text was left at the head of a line. -/
def plainFrom (flow : Bool) (indent : Int) :
    Nat → (read gap : List Char) → (newLine : Bool) → Scan (List Char × Bool)
  | 0, _, _, _ => Scan.malformed
  | fuel + 1, read, gap, newLine => do
    let c ← get
    let stretch := if c.peek? = some '#' then [] else plainStretch flow c.rest
    if stretch = [] then return (read, newLine)
    Scan.skip stretch.length
    let read := read ++ gap ++ stretch
    let (gap, newLine) ← plainGap
    let c ← get
    if gap = [] || c.peek? = some '#' || (!flow && (c.column : Int) < indent) then
      return (read, newLine)
    plainFrom flow indent fuel read gap newLine

/-- Plain text inside a block whose lines are indented by `indent`, or inside brackets. -/
def plainText (flow : Bool) (indent : Int) : Scan (List Char × Bool) := do
  plainFrom flow indent ((← get).rest.length + 1) [] [] false

end RetentionPlan.Yaml
