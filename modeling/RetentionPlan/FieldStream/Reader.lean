import RetentionPlan.FieldStream.Writer

/-!
# Reading field streams

A reader walks forward through the fields of a stream and skips those that are not asked for. The
bytes that a failing read has taken stay taken. Decoded collections become tuples, so that they can
be members of sets.
-/
namespace RetentionPlan.FieldStream

/-- The result of a read and the bytes that remain. -/
abbrev Taken (α : Type) := Except StreamError α × List UInt8

/-- Takes `count` bytes; if there are fewer, all of them are gone. -/
def takeBytes (count : Nat) (bytes : List UInt8) : Taken (List UInt8) :=
  let chunk := bytes.take count
  if chunk.length = count then (.ok chunk, bytes.drop count) else (.error .endOfStream, [])

/-- Takes a natural number of `width` bytes. -/
def takeNat (width : Nat) (bytes : List UInt8) : Taken Nat :=
  match takeBytes width bytes with
  | (.error e, rest) => (.error e, rest)
  | (.ok chunk, rest) => (.ok (ofBigEndian chunk), rest)

def takeInt (width : Nat) (bytes : List UInt8) : Taken Int :=
  match takeBytes width bytes with
  | (.error e, rest) => (.error e, rest)
  | (.ok chunk, rest) => (.ok (ofSignedBytes width chunk), rest)

/-- Takes a text with its length in front. -/
def takeText (bytes : List UInt8) : Taken String :=
  match takeNat 4 bytes with
  | (.error e, rest) => (.error e, rest)
  | (.ok length, rest) =>
    match takeBytes length rest with
    | (.error e, rest) => (.error e, rest)
    | (.ok chunk, rest) =>
      match textOfBytes? chunk with
      | some s => (.ok s, rest)
      | none => (.error .badText, rest)

mutual
/-- Takes a value; `fuel` exceeds twice the number of bytes. -/
def takeValue : Nat → List UInt8 → Taken Value
  | 0, bytes => (.error .endOfStream, bytes)
  | fuel + 1, bytes =>
    match takeNat 1 bytes with
    | (.error e, rest) => (.error e, rest)
    | (.ok byte, rest) =>
      match Tag.ofByte? (UInt8.ofNat byte) with
      | none => (.error (.unknownTag byte), rest)
      | some .null => (.ok .null, rest)
      | some .bool =>
        match takeNat 1 rest with
        | (.error e, rest) => (.error e, rest)
        | (.ok n, rest) => (.ok (.bool (n ≠ 0)), rest)
      | some .int =>
        match takeInt 8 rest with
        | (.error e, rest) => (.error e, rest)
        | (.ok n, rest) => (.ok (.int n), rest)
      | some .float =>
        match takeNat 8 rest with
        | (.error e, rest) => (.error e, rest)
        | (.ok n, rest) => (.ok (.float ⟨UInt64.ofNat n⟩), rest)
      | some .text =>
        match takeText rest with
        | (.error e, rest) => (.error e, rest)
        | (.ok s, rest) => (.ok (.text s), rest)
      | some .collection =>
        match takeNat 4 rest with
        | (.error e, rest) => (.error e, rest)
        | (.ok count, rest) =>
          match takeValues fuel count rest with
          | (.error e, rest) => (.error e, rest)
          | (.ok items, rest) => (.ok (.tuple items), rest)

def takeValues : Nat → Nat → List UInt8 → Taken (List Value)
  | _, 0, bytes => (.ok [], bytes)
  | 0, _ + 1, bytes => (.error .endOfStream, bytes)
  | fuel + 1, count + 1, bytes =>
    match takeValue fuel bytes with
    | (.error e, rest) => (.error e, rest)
    | (.ok v, rest) =>
      match takeValues fuel count rest with
      | (.error e, rest) => (.error e, rest)
      | (.ok vs, rest) => (.ok (v :: vs), rest)
end

/-- A stream being read. -/
structure Reader where
  bytes : List UInt8
  /-- An index that was read but whose field was not asked for yet. -/
  pending : Option Int := none
  /-- The index asked for last, -1 before the first. -/
  last : Int := -1
  deriving DecidableEq, Repr

namespace Reader

def value (r : Reader) : Except StreamError Value × Reader :=
  let (result, rest) := takeValue (2 * r.bytes.length + 2) r.bytes
  (result, { r with bytes := rest })

/-- The index of the next field, which stays pending. -/
def nextIndex (r : Reader) : Except StreamError Int × Reader :=
  match r.pending with
  | some index => (.ok index, r)
  | none =>
    match takeInt 4 r.bytes with
    | (.error e, rest) => (.error e, { r with bytes := rest })
    | (.ok index, rest) => (.ok index, { r with bytes := rest, pending := some index })

/-- Moves to the field `index` and says whether it is there; `fuel` exceeds the number of bytes. -/
def skipTo (index : Int) : Nat → Reader → Except StreamError Bool × Reader
  | 0, r => (.error .endOfStream, r)
  | fuel + 1, r =>
    match r.nextIndex with
    | (.error e, r) => (.error e, r)
    | (.ok current, r) =>
      if current = -1 ∨ index < current then (.ok false, r)
      else
        let r := { r with pending := none }
        if current = index then (.ok true, r)
        else
          match r.value with
          | (.error e, r) => (.error e, r)
          | (.ok _, r) => skipTo index fuel r

/-- Moves to a field that was not left behind. -/
def seek (r : Reader) (index : Int) : Except StreamError Bool × Reader :=
  if index ≤ r.last then (.error (.requestedTooLate index r.last), r)
  else skipTo index (r.bytes.length + 2) { r with last := index }

def field? (r : Reader) (index : Int) : Except StreamError (Option Value) × Reader :=
  match r.seek index with
  | (.error e, r) => (.error e, r)
  | (.ok false, r) => (.ok none, r)
  | (.ok true, r) =>
    match r.value with
    | (.error e, r) => (.error e, r)
    | (.ok v, r) => (.ok (some v), r)

/-- Reads a text; a missing field and an empty one have none. -/
def readText (r : Reader) (index : Int) : Except StreamError (Option String) × Reader :=
  match r.field? index with
  | (.error e, r) => (.error e, r)
  | (.ok none, r) => (.ok none, r)
  | (.ok (some .null), r) => (.ok none, r)
  | (.ok (some (.text s)), r) => (.ok (some s), r)
  | (.ok (some _), r) => (.error (.notText index), r)

/-- Reads an integer; a missing field counts as zero. -/
def readInt (r : Reader) (index : Int) : Except StreamError Int × Reader :=
  match r.field? index with
  | (.error e, r) => (.error e, r)
  | (.ok none, r) => (.ok 0, r)
  | (.ok (some (.int n)), r) => (.ok n, r)
  | (.ok (some _), r) => (.error (.notInteger index), r)

/-- Adds the items of a collection to the members of a set; a missing field adds none. -/
def readCollection (r : Reader) (index : Int) (members : List Value) :
    Except StreamError (List Value) × Reader :=
  match r.field? index with
  | (.error e, r) => (.error e, r)
  | (.ok none, r) => (.ok members, r)
  | (.ok (some .null), r) => (.ok members, r)
  | (.ok (some (.tuple items)), r) => (.ok (Value.insertAll members items), r)
  | (.ok (some _), r) => (.error (.notCollection index), r)

/-- Skips fields up to the end mark and takes it; `fuel` exceeds the number of bytes. -/
def skipToEnd : Nat → Reader → Except StreamError Unit × Reader
  | 0, r => (.error .endOfStream, r)
  | fuel + 1, r =>
    match r.nextIndex with
    | (.error e, r) => (.error e, r)
    | (.ok index, r) =>
      let r := { r with pending := none }
      if index = -1 then (.ok (), r)
      else
        match r.value with
        | (.error e, r) => (.error e, r)
        | (.ok _, r) => skipToEnd fuel r

def finish (r : Reader) : Except StreamError Unit × Reader := skipToEnd (r.bytes.length + 2) r

/-- Reads the set that is the only field of a stream. -/
def deserialize (r : Reader) : Except StreamError (List Value) × Reader :=
  match r.readCollection 0 [] with
  | (.error e, r) => (.error e, r)
  | (.ok members, r) =>
    match r.finish with
    | (.error e, r) => (.error e, r)
    | (.ok (), r) => (.ok members, r)

end Reader

def decode (bytes : List UInt8) : Except StreamError (List Value) :=
  (Reader.deserialize { bytes }).1

end RetentionPlan.FieldStream
