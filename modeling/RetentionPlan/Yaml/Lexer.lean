import RetentionPlan.Yaml.BlockText
import RetentionPlan.Yaml.Tag

/-!
# From text to YAML tokens

Outside brackets, indentation opens and closes blocks. A key need not be marked: when a colon shows
that what was read on this line was a key, the mark is put in at the place where it began.
-/
namespace RetentionPlan.Yaml

/-- A place where a key without a mark may have begun. -/
structure PossibleKey where
  /-- The number of brackets that are open there. -/
  level : Nat
  /-- The number of tokens before the key. -/
  token : Nat
  /-- Nothing but a key can stand there. -/
  required : Bool
  index : Nat
  line : Nat
  column : Nat

/-- The state of reading tokens. -/
structure Lexer where
  cursor : Cursor
  /-- The tokens read, the last one first. -/
  tokens : List Token := []
  /-- The number of open brackets. -/
  level : Nat := 0
  /-- The column of the innermost block, and those of the blocks around it. -/
  indent : Int := -1
  outer : List Int := []
  /-- May a key without a mark begin here? -/
  keyAllowed : Bool := true
  keys : List PossibleKey := []

/-- A step of reading tokens. -/
abbrev Lex (α : Type) := StateT Lexer (Except Error) α

namespace Lexer

/-- The longest key without a mark. -/
def maxKey : Nat := 1024

/-- Can no colon make a key any more of what began there? -/
def isStale (st : Lexer) (key : PossibleKey) : Bool :=
  key.line ≠ st.cursor.line || maxKey < st.cursor.index - key.index

def scan {α : Type} (reader : Scan α) : Lex α := fun st => do
  let (a, cursor) ← reader st.cursor
  return (a, { st with cursor })

def push (t : Token) : Lex Unit := modify fun st => { st with tokens := t :: st.tokens }

/-- Puts a token in after the first `n`. -/
def insert (n : Nat) (t : Token) : Lex Unit :=
  modify fun st =>
    let later := st.tokens.length - n
    { st with tokens := st.tokens.take later ++ t :: st.tokens.drop later }

/-- Drops the places that can be no keys. It is an error if one had to be a key. -/
def dropStale : Lex Unit := do
  let st ← get
  let (stale, fresh) := st.keys.partition st.isStale
  if stale.any (·.required) then throw .malformed
  set { st with keys := fresh }

/-- Drops the place for a key at the present level. -/
def dropKey : Lex Unit := do
  let st ← get
  let (here, others) := st.keys.partition (·.level = st.level)
  if here.any (·.required) then throw .malformed
  set { st with keys := others }

/-- Takes note that a key may begin here. -/
def saveKey : Lex Unit := do
  if (← get).keyAllowed then
    dropKey
    modify fun st =>
      let c := st.cursor
      let required := st.level = 0 && st.indent = c.column
      { st with keys :=
          st.keys ++ [⟨st.level, st.tokens.length, required, c.index, c.line, c.column⟩] }

/-- Says whether a key without a mark may begin next. -/
def allowKey (allowed : Bool) : Lex Unit := modify fun st => { st with keyAllowed := allowed }

/-- Closes the blocks that are indented further than a column. -/
def closeBlocks (column : Int) : Lex Unit :=
  modify fun st => if st.level ≠ 0 then st else close st (st.outer.length + 1)
where
  close (st : Lexer) : Nat → Lexer
    | 0 => st
    | fuel + 1 =>
      if st.indent ≤ column then st
      else
        close { st with
          indent := st.outer.headD (-1)
          outer := st.outer.tail
          tokens := .blockEnd :: st.tokens } fuel

/-- Opens a block at a column that is further than the innermost block; is one opened? -/
def openBlock (column : Nat) : Lex Bool := do
  let st ← get
  if st.indent < column then
    set { st with outer := st.indent :: st.outer, indent := (column : Int) }
    return true
  return false

/-- Passes over blanks, comments and ends of lines. -/
def skipSpace : Nat → Lex Unit
  | 0 => throw .malformed
  | fuel + 1 => do
    scan Scan.skipBlanks
    if (← get).cursor.peek? = some '#' then scan (Scan.skipWhile (!isBreak ·))
    match ← scan Scan.lineBreak? with
    | none => return
    | some _ =>
      if (← get).level = 0 then allowKey true
      skipSpace fuel

def streamEnd : Lex Unit := do
  closeBlocks (-1)
  dropKey
  push .streamEnd

def directive : Lex Unit := do
  closeBlocks (-1)
  dropKey
  allowKey false
  push (← scan scanDirective)

/-- A mark between documents. -/
def separator (t : Token) : Lex Unit := do
  closeBlocks (-1)
  dropKey
  allowKey false
  scan (Scan.skip 3)
  push t

def openFlow (t : Token) : Lex Unit := do
  saveKey
  modify fun st => { st with level := st.level + 1 }
  allowKey true
  scan (Scan.skip 1)
  push t

def closeFlow (t : Token) : Lex Unit := do
  dropKey
  modify fun st => { st with level := st.level - 1 }
  allowKey false
  scan (Scan.skip 1)
  push t

/-- A comma between items. -/
def flowEntry : Lex Unit := do
  allowKey true
  dropKey
  scan (Scan.skip 1)
  push .flowEntry

/-- A block that begins at the cursor, unless brackets are open. -/
def startBlock (t : Token) : Lex Unit := do
  let st ← get
  if st.level = 0 then
    if !st.keyAllowed then throw .malformed
    if ← openBlock st.cursor.column then push t

/-- A dash before an item. -/
def blockEntry : Lex Unit := do
  startBlock .blockSequenceStart
  allowKey true
  dropKey
  scan (Scan.skip 1)
  push .blockEntry

def key : Lex Unit := do
  startBlock .blockMappingStart
  allowKey ((← get).level = 0)
  dropKey
  scan (Scan.skip 1)
  push .key

/-- A colon before a value. If a key may have begun before, it was one. -/
def value : Lex Unit := do
  let st ← get
  match st.keys.find? (·.level = st.level) with
  | some place =>
    set { st with keys := st.keys.filter (·.level ≠ st.level) }
    insert place.token .key
    if st.level = 0 then
      if ← openBlock place.column then insert place.token .blockMappingStart
    allowKey false
  | none =>
    startBlock .blockMappingStart
    allowKey (st.level = 0)
    dropKey
  scan (Scan.skip 1)
  push .value

/-- Something that may be a key, after which no other key begins. -/
def node (reader : Scan Token) : Lex Unit := do
  saveKey
  allowKey false
  push (← scan reader)

def blockScalar (folded : Bool) : Lex Unit := do
  allowKey true
  dropKey
  push (.scalar (String.ofList (← scan (blockText folded (← get).indent))) false)

def quotedScalar (double : Bool) : Lex Unit :=
  node do return .scalar (String.ofList (← quotedText double)) false

/-- Plain text. A key may follow if a line ended behind it. -/
def plainScalar : Lex Unit := do
  saveKey
  let st ← get
  let (text, newLine) ← scan (plainText (st.level ≠ 0) (st.indent + 1))
  allowKey newLine
  push (.scalar (String.ofList text) true)

/-- Characters that mean something at the head of a field. -/
def marks : List Char :=
  [',', '[', ']', '\x7b', '\x7d', '#', '&', '*', '!', '|', '>', '\x27', '"', '%', '@', '\x60']

/-- Can plain text begin with the character before `next`? -/
def startsPlain (flow : Bool) (c : Char) (next : Option Char) : Bool :=
  if c = '-' then !endsWord next
  else if c = '?' || c = ':' then !flow && !endsWord next
  else !endsWord (some c) && !marks.contains c

/-- Reads the next token, and the marks that go with it. Is it the last? -/
def step : Lex Bool := do
  skipSpace ((← get).cursor.rest.length + 1)
  dropStale
  closeBlocks (← get).cursor.column
  let st ← get
  let c := st.cursor
  let flow := st.level ≠ 0
  let spaced := endsWord (c.peek? 1)
  match c.rest with
  | [] =>
    streamEnd
    return true
  | x :: _ =>
    if x = '%' && c.column = 0 then directive
    else if c.column = 0 && c.atSeparator then
      separator (if x = '-' then .documentStart else .documentEnd)
    else if x = '[' then openFlow .flowSequenceStart
    else if x = '\x7b' then openFlow .flowMappingStart
    else if x = ']' then closeFlow .flowSequenceEnd
    else if x = '\x7d' then closeFlow .flowMappingEnd
    else if x = ',' then flowEntry
    else if x = '-' && spaced then blockEntry
    else if x = '?' && (flow || spaced) then key
    else if x = ':' && (flow || spaced) then value
    else if x = '*' then node do return .reference (← anchorName)
    else if x = '&' then node do return .anchor (← anchorName)
    else if x = '!' then node scanTag
    else if x = '|' && !flow then blockScalar false
    else if x = '>' && !flow then blockScalar true
    else if x = '\x27' then quotedScalar false
    else if x = '"' then quotedScalar true
    else if startsPlain flow x (c.peek? 1) then plainScalar
    else throw .malformed
    return false

/-- The number of tokens that are settled: none of those before the first place for a key can be
preceded by a mark that is not there yet. -/
def settled (st : Lexer) : Nat :=
  (st.keys.filter (!st.isStale ·)).foldl (fun n key => min n key.token) st.tokens.length

end Lexer

/-- The tokens of a text, and the failure that ends them if they are not all. -/
structure TokenStream where
  tokens : List Token
  failure : Option Error := none

/-- Reads tokens up to the end or the first failure. -/
def Lexer.run : Nat → Lexer → TokenStream
  | 0, st => ⟨st.tokens.reverse, some .malformed⟩
  | fuel + 1, st =>
    match step st with
    | .error e => ⟨st.tokens.reverse.take st.settled, some e⟩
    | .ok (true, st) => ⟨st.tokens.reverse, none⟩
    | .ok (false, st) => st.run fuel

/-- Characters that a document may hold. -/
def isAllowed (c : Char) : Bool :=
  c = '\t' || c = '\n' || c = '\r' || c = '\x85' || (' ' ≤ c && c ≤ '~') ||
    ('\xa0' ≤ c && c ≤ '\ufffd') || 0x10000 ≤ c.toNat

/-- The tokens of a text. A byte order mark may stand at its head. -/
def tokensOf (text : String) : TokenStream :=
  let cs := text.toList
  if !cs.all isAllowed then ⟨[], some .malformed⟩
  else
    let start : Cursor := ⟨cs, 0, 0, 0⟩
    let start := if cs.head? = some '\ufeff' then start.next else start
    Lexer.run (cs.length + 2) { cursor := start }

end RetentionPlan.Yaml
