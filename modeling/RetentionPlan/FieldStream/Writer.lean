import RetentionPlan.FieldStream.Bytes
import RetentionPlan.FieldStream.Error
import RetentionPlan.FieldStream.Value
import RetentionPlan.Number.Integer

/-!
# Writing field streams

A field is a signed index of four bytes, a tag and a payload; the indices of a stream grow. The
index -1 ends it. What was written before a failure stays in the stream.
-/
namespace RetentionPlan.FieldStream

inductive Tag where
  | null
  | text
  | int
  | collection
  | bool
  | float
  deriving DecidableEq, Repr

namespace Tag

def byte : Tag → UInt8
  | null => 0
  | text => 1
  | int => 2
  | collection => 3
  | bool => 4
  | float => 5

def ofByte? (b : UInt8) : Option Tag :=
  [null, text, int, collection, bool, float].find? (·.byte == b)

@[simp]
theorem ofByte?_byte (t : Tag) : ofByte? t.byte = some t := by cases t <;> decide

end Tag

/-- Bytes written, and the failure that stopped the writing. -/
structure Written where
  bytes : List UInt8
  failure : Option StreamError := none
  deriving DecidableEq, Repr

/-- One piece of writing after another, unless the first one failed. -/
def Written.andThen (a b : Written) : Written :=
  match a.failure with
  | some _ => a
  | none => ⟨a.bytes ++ b.bytes, b.failure⟩

def lengthBytes (n : Nat) : Option (List UInt8) :=
  if n < Nat.pow 2 32 then some (bigEndian 4 n) else none

/-- A tag with its payload, or nothing at all if the payload does not fit. -/
def tagged (tag : Tag) (payload : Option (List UInt8)) : Written :=
  match payload with
  | some bytes => ⟨tag.byte :: bytes, none⟩
  | none => ⟨[], some .outOfRange⟩

mutual
def written : Value → Written
  | .null => tagged .null (some [])
  | .bool b => tagged .bool (some [if b then 1 else 0])
  | .int n => tagged .int (signedBytes? 8 n)
  | .float x => tagged .float (some (bigEndian 8 x.bits.toNat))
  | .text s => tagged .text ((lengthBytes (textBytes s).length).map (· ++ textBytes s))
  | .list items | .tuple items | .set items | .frozenSet items =>
    (tagged .collection (lengthBytes items.length)).andThen (writtenAll items)
  | v => ⟨[], some (.unsupported v.kindText)⟩

/-- Several values, one after the other. -/
def writtenAll : List Value → Written
  | [] => ⟨[], none⟩
  | v :: rest => (written v).andThen (writtenAll rest)
end

/-- The integer that a value offered as one stands for. -/
def Value.toInt : Value → Except StreamError Int
  | .bool b => .ok (boolInt b)
  | .int n => .ok n
  | .float x =>
    if x.isNaN then .error .badNumeral
    else if x.isInfinite then .error .infinite
    else .ok x.truncate
  | .text s => match Integer.parse s with
    | some n => .ok n
    | none => .error .badNumeral
  | .bytes bs => match Integer.parseBytes bs with
    | some n => .ok n
    | none => .error .badNumeral
  | _ => .error .badOperand

def Value.toItems : Value → Except StreamError (List Value)
  | .list items | .tuple items | .set items | .frozenSet items => .ok items
  | .text s => .ok (s.toList.map fun c => .text (String.singleton c))
  | .bytes bs => .ok (bs.map fun b => .int b.toNat)
  | .mapping => .ok []
  | _ => .error .badOperand

/-- A stream being written. -/
structure Writer where
  bytes : List UInt8 := []
  /-- The index of the last field, -1 before the first. -/
  last : Int := -1
  ended : Bool := false
  /-- Can the bytes be taken from the stream at the end? -/
  inMemory : Bool := true
  deriving DecidableEq, Repr

namespace Writer

def append (w : Writer) (out : Written) : Except StreamError Unit × Writer :=
  let w := { w with bytes := w.bytes ++ out.bytes }
  match out.failure with
  | some e => (.error e, w)
  | none => (.ok (), w)

/-- Opens a field. Its index counts as used even if it does not fit. -/
def openField (w : Writer) (index : Int) : Except StreamError Unit × Writer :=
  if w.ended then (.error .writtenAfterEnd, w)
  else if index ≤ w.last then (.error (.indexNotGreater index w.last), w)
  else
    let w := { w with last := index }
    match signedBytes? 4 index with
    | some bytes => w.append ⟨bytes, none⟩
    | none => (.error .outOfRange, w)

/-- Opens a field and writes what `content` gives. -/
def writeField (w : Writer) (index : Int) (content : Except StreamError Value) :
    Except StreamError Unit × Writer :=
  match w.openField index with
  | (.error e, w) => (.error e, w)
  | (.ok (), w) =>
    match content with
    | .error e => (.error e, w)
    | .ok v => w.append (written v)

def writeText (w : Writer) (index : Int) (v : Value) : Except StreamError Unit × Writer :=
  w.writeField index (.ok v)

/-- Writes the integer that a value stands for. -/
def writeInt (w : Writer) (index : Int) (v : Value) : Except StreamError Unit × Writer :=
  w.writeField index (v.toInt.map .int)

def writeCollection (w : Writer) (index : Int) (v : Value) : Except StreamError Unit × Writer :=
  w.writeField index (v.toItems.map .list)

def finish (w : Writer) (remainder : Value) : Except StreamError Unit × Writer :=
  if w.ended then (.error .endedTwice, w)
  else if remainder.isTruthy then (.error .foreignRemainder, w)
  else (.ok (), { w with bytes := w.bytes ++ bigEndian 4 (Nat.pow 2 32 - 1), ended := true })

/-- The bytes written so far. -/
def contents (w : Writer) : Except StreamError (List UInt8) :=
  if w.inMemory then .ok w.bytes else .error .notInMemory

/-- Writes a collection as the only field of a stream. -/
def serialize (w : Writer) (v : Value) : Except StreamError Unit × Writer :=
  match w.writeCollection 0 v with
  | (.error e, w) => (.error e, w)
  | (.ok (), w) => w.finish .null

end Writer

def encode (members : List Value) : Except StreamError (List UInt8) :=
  match Writer.serialize {} (.set members) with
  | (.error e, _) => .error e
  | (.ok (), w) => w.contents

end RetentionPlan.FieldStream
