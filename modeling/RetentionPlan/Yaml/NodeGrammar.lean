import RetentionPlan.Yaml.Lexer
import RetentionPlan.Yaml.Node

/-!
# From tokens to nodes

The grammar of nodes. Collections are blocks or stand in brackets; a sequence in a block mapping
need not be indented. What is missing beside a mark is an empty node.
-/
namespace RetentionPlan.Yaml

/-- The state of reading nodes. -/
structure NodeReader where
  tokens : List Token
  /-- What is wrong behind the last token, if anything. -/
  failure : Option Error
  nodes : Nodes := #[]
  /-- The nodes that have names. -/
  anchors : List (String × Nat) := []
  /-- What the handles of tags stand for. -/
  handles : List (String × String) := []

abbrev ReadNodes (α : Type) := StateT NodeReader (Except Error) α

namespace NodeReader

def commonHandles : List (String × String) := [("!", "!"), ("!!", "tag:yaml.org,2002:")]

def peek : ReadNodes Token := do
  let st ← get
  match st.tokens with
  | t :: _ => return t
  | [] => throw (st.failure.getD .malformed)

def skip : ReadNodes Unit := modify fun st => { st with tokens := st.tokens.tail }

def add (kind : Kind) (content : Content) : ReadNodes Nat :=
  modifyGet fun st => (st.nodes.size, { st with nodes := st.nodes.push ⟨kind, content⟩ })

def name (anchor : Option String) (i : Nat) : ReadNodes Unit :=
  match anchor with
  | none => pure ()
  | some a => modify fun st => { st with anchors := (a, i) :: st.anchors }

def empty : ReadNodes Nat := add .null (.scalar "")

/-- Name and tag of a node, in either order. -/
def properties : ReadNodes (Option String × Option (Option String × String)) := do
  match ← peek with
  | .anchor a =>
    skip
    match ← peek with
    | .tag h s =>
      skip
      return (some a, some (h, s))
    | _ => return (some a, none)
  | .tag h s =>
    skip
    match ← peek with
    | .anchor a =>
      skip
      return (some a, some (h, s))
    | _ => return (none, some (h, s))
  | _ => return (none, none)

def expand : Option String × String → ReadNodes String
  | (none, suffix) => return suffix
  | (some handle, suffix) => do
    match (← get).handles.lookup handle with
    | some expansion => return expansion ++ suffix
    | none => throw .malformed

/-- A kind by a tag; the tag of a single mark says nothing. -/
def kindOf (tag : Option String) (otherwise : Kind) : Kind :=
  match tag with
  | none | some "!" => otherwise
  | some tag => Kind.ofTag tag

/-- The kind of a scalar. A tag of a single mark lets text show its kind by its form even in
quotes. -/
def scalarKind (tag : Option String) (text : String) (plain : Bool) : Kind :=
  match tag with
  | none => if plain then Kind.ofPlain text else .text
  | some "!" => Kind.ofPlain text
  | some tag => Kind.ofTag tag

/-- Refuses a name that another node has. -/
def checkName (anchor : Option String) : ReadNodes Unit := do
  match anchor with
  | none => pure ()
  | some a => if ((← get).anchors.lookup a).isSome then throw .malformed

def addScalar (anchor tag : Option String) (text : String) (plain : Bool) : ReadNodes Nat := do
  checkName anchor
  let i ← add (scalarKind tag text plain) (.scalar text)
  name anchor i
  return i

/-- Adds a collection, whose name stands for it already within it. -/
def addCollection (anchor : Option String) (kind : Kind) (start : Content)
    (content : ReadNodes Content) : ReadNodes Nat := do
  checkName anchor
  let i ← add kind start
  name anchor i
  let whole ← content
  modify fun st => { st with nodes := st.nodes.setContent i whole }
  return i

/-- Where a node stands: in brackets, in a block, or in a block mapping. -/
inductive Place where
  | flow
  | block
  | entry
  deriving DecidableEq

/-- Is the node of an item in a block missing before this token? -/
def endsItem (next : Token) : Bool := next = .blockEntry || next = .blockEnd

/-- Is the node of a key or a value in a block missing before this token? -/
def endsEntry (next : Token) : Bool := next = .key || next = .value || next = .blockEnd

/-- Is a node in brackets missing before this token? -/
def endsFlow (closing next : Token) : Bool := next = .flowEntry || next = closing

def expect (t : Token) : ReadNodes Unit := do
  if (← peek) = t then skip else throw .malformed

mutual
def node (fuel : Nat) (place : Place) : ReadNodes Nat :=
  match fuel with
  | 0 => throw .malformed
  | fuel + 1 => do
    match ← peek with
    | .reference a =>
      skip
      match (← get).anchors.lookup a with
      | some i => return i
      | none => throw .malformed
    | _ =>
      let (anchor, tag) ← properties
      let tag ← tag.mapM expand
      let sequence := addCollection anchor (kindOf tag .sequence) (.sequence [])
      let mapping := addCollection anchor (kindOf tag .mapping) (.mapping [])
      match ← peek with
      | .scalar text plain =>
        skip
        addScalar anchor tag text plain
      | .flowSequenceStart =>
        sequence do
          skip
          return .sequence (← flowItems fuel true)
      | .flowMappingStart =>
        mapping do
          skip
          return .mapping (← flowEntries fuel true)
      | next =>
        if place = .entry ∧ next = .blockEntry then
          sequence do return .sequence (← looseItems fuel)
        else if place ≠ .flow ∧ next = .blockSequenceStart then
          sequence do
            skip
            return .sequence (← blockItems fuel)
        else if place ≠ .flow ∧ next = .blockMappingStart then
          mapping do
            skip
            return .mapping (← blockEntries fuel)
        else if anchor.isSome ∨ tag.isSome then addScalar anchor tag "" true
        else throw .malformed

def blockItems (fuel : Nat) : ReadNodes (List Nat) :=
  match fuel with
  | 0 => throw .malformed
  | fuel + 1 => do
    match ← peek with
    | .blockEntry =>
      skip
      let item ← if endsItem (← peek) then empty else node fuel .block
      return item :: (← blockItems fuel)
    | _ =>
      expect .blockEnd
      return []

def looseItems (fuel : Nat) : ReadNodes (List Nat) :=
  match fuel with
  | 0 => throw .malformed
  | fuel + 1 => do
    match ← peek with
    | .blockEntry =>
      skip
      let next ← peek
      let item ← if endsItem next || endsEntry next then empty else node fuel .block
      return item :: (← looseItems fuel)
    | _ => return []

def blockEntries (fuel : Nat) : ReadNodes (List (Nat × Nat)) :=
  match fuel with
  | 0 => throw .malformed
  | fuel + 1 => do
    match ← peek with
    | .key =>
      skip
      let key ← if endsEntry (← peek) then empty else node fuel .entry
      let value ← blockValue fuel
      return (key, value) :: (← blockEntries fuel)
    | _ =>
      expect .blockEnd
      return []

def blockValue (fuel : Nat) : ReadNodes Nat :=
  match fuel with
  | 0 => throw .malformed
  | fuel + 1 => do
    match ← peek with
    | .value =>
      skip
      if endsEntry (← peek) then empty else node fuel .entry
    | _ => empty

/-- The items of a sequence in brackets. Commas separate them, and one may follow the last. A key
makes a mapping of one entry. -/
def flowItems (fuel : Nat) (first : Bool) : ReadNodes (List Nat) :=
  match fuel with
  | 0 => throw .malformed
  | fuel + 1 => do
    if (← peek) = .flowSequenceEnd then
      skip
      return []
    if !first then expect .flowEntry
    match ← peek with
    | .key =>
      let item ← addCollection none .mapping (.mapping []) do
        skip
        let key ← flowKey fuel .flowSequenceEnd
        let value ← flowValue fuel .flowSequenceEnd
        return .mapping [(key, value)]
      return item :: (← flowItems fuel false)
    | .flowSequenceEnd =>
      skip
      return []
    | _ =>
      let item ← node fuel .flow
      return item :: (← flowItems fuel false)

/-- The entries of a mapping in brackets. A value may be missing. -/
def flowEntries (fuel : Nat) (first : Bool) : ReadNodes (List (Nat × Nat)) :=
  match fuel with
  | 0 => throw .malformed
  | fuel + 1 => do
    if (← peek) = .flowMappingEnd then
      skip
      return []
    if !first then expect .flowEntry
    match ← peek with
    | .key =>
      skip
      let key ← flowKey fuel .flowMappingEnd
      let value ← flowValue fuel .flowMappingEnd
      return (key, value) :: (← flowEntries fuel false)
    | .flowMappingEnd =>
      skip
      return []
    | _ =>
      let key ← node fuel .flow
      let value ← empty
      return (key, value) :: (← flowEntries fuel false)

/-- A key in brackets after its mark. -/
def flowKey (fuel : Nat) (closing : Token) : ReadNodes Nat :=
  match fuel with
  | 0 => throw .malformed
  | fuel + 1 => do
    let next ← peek
    if next = .value || endsFlow closing next then empty else node fuel .flow

def flowValue (fuel : Nat) (closing : Token) : ReadNodes Nat :=
  match fuel with
  | 0 => throw .malformed
  | fuel + 1 => do
    match ← peek with
    | .value =>
      skip
      if endsFlow closing (← peek) then empty else node fuel .flow
    | _ => empty
end

/-- The directives before a document. Handles may be given once each, and the version once. -/
def directives (fuel : Nat) (versioned : Bool) : ReadNodes Unit :=
  match fuel with
  | 0 => throw .malformed
  | fuel + 1 => do
    match ← peek with
    | .version major _ =>
      skip
      if versioned || major ≠ 1 then throw .malformed
      directives fuel true
    | .tagHandle handle expansion =>
      skip
      if ((← get).handles.lookup handle).isSome then throw .malformed
      modify fun st => { st with handles := (handle, expansion) :: st.handles }
      directives fuel versioned
    | .directive =>
      skip
      directives fuel versioned
    | _ => modify fun st => { st with handles := st.handles ++ commonHandles }

def documentHead (fuel : Nat) : ReadNodes Unit := do
  modify fun st => { st with handles := [] }
  directives fuel false
  expect .documentStart

/-- Is the document empty before this token? -/
def endsDocument : Token → Bool
  | .version _ _ | .tagHandle _ _ | .directive | .documentStart | .documentEnd | .streamEnd => true
  | _ => false

/-- Passes over the marks that end documents. -/
def documentEnds (fuel : Nat) : ReadNodes Unit :=
  match fuel with
  | 0 => pure ()
  | fuel + 1 => do
    if (← peek) = .documentEnd then
      skip
      documentEnds fuel

def document (fuel : Nat) : ReadNodes (Option Nat) := do
  let first ← peek
  if first = .streamEnd then return none
  let root ←
    if endsDocument first && first ≠ .documentEnd then do
      documentHead fuel
      if endsDocument (← peek) then empty else node fuel .block
    else do
      modify fun st => { st with handles := commonHandles }
      node fuel .block
  documentEnds fuel
  if (← peek) ≠ .streamEnd then
    documentHead fuel
    throw .malformed
  return some root

end NodeReader

/-- The nodes of the only document of a text, and which of them is the root. No token takes more
than four steps of the grammar. -/
def nodesOf (text : String) : Except Error (Option (Nodes × Nat)) := do
  let stream := tokensOf text
  let fuel := 4 * stream.tokens.length + 8
  let (root, reader) ← (NodeReader.document fuel).run ⟨stream.tokens, stream.failure, #[], [], []⟩
  return root.map fun i => (reader.nodes, i)

end RetentionPlan.Yaml
