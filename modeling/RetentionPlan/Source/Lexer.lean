import RetentionPlan.Source.Literal
import RetentionPlan.Source.Numeral
import RetentionPlan.Unicode.Compatibility
import RetentionPlan.Unicode.Identifier
import RetentionPlan.Unicode.Printable

/-!
# From text to tokens

A module is read line by line. The blanks at the head of a line open and close blocks, unless a
bracket is open or nothing but a comment follows. Two ways of counting tabs must agree on whether a
line is deeper than another. A backslash at the end of a line joins it with the next.
-/
namespace RetentionPlan.Source

/-- The depth of a line, counted with tabs that reach to the next multiple of eight and with tabs of
one column. -/
structure Depth where
  columns : Nat
  narrow : Nat
  deriving DecidableEq, Repr

/-- The most brackets that may be open. -/
def maxBrackets : Nat := 200

/-- The most blocks that may be open, the outermost included. -/
def maxBlocks : Nat := 100

/-- Measures the blanks at the head of a line. Where backslashes join lines of blanks, the first
positive number of columns counts, in both ways of counting. -/
def measure (depth : Depth) (joined : Option Nat) : List Char → Option (Depth × List Char)
  | ' ' :: rest => measure ⟨depth.columns + 1, depth.narrow + 1⟩ joined rest
  | '\t' :: rest => measure ⟨(depth.columns / 8 + 1) * 8, depth.narrow + 1⟩ joined rest
  | '\x0c' :: rest => measure ⟨0, 0⟩ joined rest
  | '\\' :: rest =>
    match rest with
    | '\n' :: c :: more =>
      let joined := match joined with
        | some n => some n
        | none => if depth.columns = 0 then none else some depth.columns
      measure depth joined (c :: more)
    | _ => none
  | cs => some ((joined.map fun n => ⟨n, n⟩).getD depth, cs)

/-- The block structure after a line of some depth: the open blocks and the marks, none if the depth
does not fit. -/
def blocksAt (depth : Depth) (blocks : List Depth) : Option (List Depth × List Token) :=
  match blocks with
  | [] => none
  | top :: below =>
    if depth.columns = top.columns then
      if depth.narrow = top.narrow then some (blocks, []) else none
    else if top.columns < depth.columns then
      if maxBlocks ≤ blocks.length ∨ depth.narrow ≤ top.narrow then none
      else some (depth :: blocks, [.indent])
    else
      match below with
      | [] => none
      | next :: _ =>
        if next.columns < depth.columns then none
        else (blocksAt depth below).map fun (blocks, marks) => (blocks, .dedent :: marks)

def wordToken (word : List Char) : Option Token :=
  let s := String.ofList word
  if keywords.contains s then some (.keyword s)
  else if word.all (·.toNat < 0x80) then (Identifier.ofChars? word).map (.name · true)
  else
    match word with
    | first :: rest =>
      if Unicode.isIdentifierStart first && rest.all Unicode.isIdentifierRest then
        (Identifier.ofChars? (Unicode.compatibilityForm s).toList).map (.name · false)
      else none
    | [] => none

/-- Reads a word, or a literal with letters before its quote. -/
def readWord (cs : List Char) : Option (Token × List Char) :=
  let word := cs.takeWhile Numeral.isNameChar
  let rest := cs.drop word.length
  let marks := word.map Char.toLower
  match rest with
  | q :: more =>
    if (q = '\'' ∨ q = '"') ∧ Literal.literalMarks.contains (String.ofList marks) then do
      let (body, rest) ← Literal.body? q more
      return (.string (← Literal.ofBody? marks body), rest)
    else (wordToken word).map ((·, rest))
  | [] => (wordToken word).map ((·, []))

/-- Brackets under way, and the text being read. -/
structure LexState where
  /-- The brackets that close those that are open, nearest first. -/
  closers : List Char := []
  /-- The depths of the open blocks, nearest first. -/
  blocks : List Depth := [⟨0, 0⟩]
  deriving Repr

def LexState.bracket (st : LexState) (c : Char) : Option LexState :=
  if c = '(' ∨ c = '[' ∨ c = '\x7b' then
    if maxBrackets ≤ st.closers.length then none
    else some { st with closers := Literal.closerOf c :: st.closers }
  else if c = ')' ∨ c = ']' ∨ c = '\x7d' then
    match st.closers with
    | [] => none
    | closer :: closers => if c = closer then some { st with closers } else none
  else some st

def readOperator (cs : List Char) : Option (String × List Char) :=
  (operators.find? fun op => op.toList.isPrefixOf cs).map fun op => (op, cs.drop op.length)

/-- Where reading stands: at the head of a line or inside it. -/
inductive Place where
  | head
  | inside
  deriving DecidableEq, Repr

/-- Reads all tokens; `tokens` holds those read so far, last first. `fuel` exceeds the number of
characters. -/
def readTokens : (fuel : Nat) → Place → LexState → (tokens : List Token) → List Char →
    Option (List Token)
  | 0, _, _, _, _ => none
  | fuel + 1, .head, st, tokens, cs => do
    let (depth, rest) ← measure ⟨0, 0⟩ none cs
    if rest.head? = some '#' ∨ rest.head? = some '\n' then
      readTokens fuel .head st tokens ((rest.dropWhile (· ≠ '\n')).drop 1)
    else if st.closers ≠ [] then readTokens fuel .inside st tokens rest
    else
      let (blocks, marks) ← blocksAt depth st.blocks
      readTokens fuel .inside { st with blocks } (marks.reverse ++ tokens) rest
  | fuel + 1, .inside, st, tokens, cs =>
    match cs with
    | [] => if st.closers = [] then some tokens.reverse else none
    | c :: rest =>
      if c = ' ' ∨ c = '\t' ∨ c = '\x0c' then readTokens fuel .inside st tokens rest
      else if c = '#' then readTokens fuel .inside st tokens (rest.dropWhile (· ≠ '\n'))
      else if c = '\n' then
        readTokens fuel .head st (if st.closers = [] then .newline :: tokens else tokens) rest
      else if c = '\\' then
        match rest with
        | '\n' :: d :: more => readTokens fuel .inside st tokens (d :: more)
        | _ => none
      else if c.isDigit ∨ (c = '.' ∧ rest.head?.any Char.isDigit) then do
        let (imaginary, rest) ← Numeral.read? cs
        readTokens fuel .inside st (.number imaginary :: tokens) rest
      else if Numeral.isNameChar c ∨ c = '\'' ∨ c = '"' then do
        let (token, rest) ← readWord cs
        readTokens fuel .inside st (token :: tokens) rest
      else do
        let (op, rest) ← readOperator cs
        readTokens fuel .inside (← st.bracket c) (.operator op :: tokens) rest

def endLine (cs : List Char) : List Char := if cs.getLast? = some '\n' then cs else cs ++ ['\n']

def tokensOf? (text : List Char) : Option (List Token) :=
  if text.contains '\x00' then none
  else
    let cs := endLine text
    readTokens (2 * cs.length + 2) .head {} [] cs

end RetentionPlan.Source
