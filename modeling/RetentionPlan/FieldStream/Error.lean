/-!
# Failures of field streams
-/
namespace RetentionPlan.FieldStream

/-- Why a stream cannot be written or read. -/
inductive StreamError where
  /-- A written field does not follow the last one. -/
  | indexNotGreater (index last : Int)
  | writtenAfterEnd
  | endedTwice
  | foreignRemainder
  | notInMemory
  /-- A value of a kind that has no tag. -/
  | unsupported (kind : String)
  /-- A field is asked for that the reader has left behind. -/
  | requestedTooLate (index last : Int)
  | notText (index : Int)
  | notInteger (index : Int)
  | notCollection (index : Int)
  | unknownTag (tag : Nat)
  | endOfStream
  /-- A number does not fit its field. -/
  | outOfRange
  /-- The bytes of a text are no text. -/
  | badText
  /-- A value cannot be turned into an integer or a list. -/
  | badOperand
  /-- A text is no numeral, or a number has no integer part. -/
  | badNumeral
  /-- An infinite number has no integer part. -/
  | infinite
  deriving DecidableEq, Repr

/-- The wording of a failure, for those that the format itself knows. -/
def StreamError.message? : StreamError → Option String
  | indexNotGreater index last => some s!"Field index {index} must be greater than {last}"
  | writtenAfterEnd => some "Cannot write after the remainder terminator"
  | endedTwice => some "Stream already terminated"
  | foreignRemainder => some "Opaque remainders are not supported"
  | notInMemory => some "getvalue() requires an in-memory stream"
  | unsupported kind => some s!"Unsupported value type: {kind}"
  | requestedTooLate index last => some s!"Field {index} requested after field {last}"
  | notText index => some s!"Field {index} is not a string"
  | notInteger index => some s!"Field {index} is not an integer"
  | notCollection index => some s!"Field {index} is not a collection"
  | unknownTag tag => some s!"Unknown type tag {tag}"
  | endOfStream => some "Unexpected end of stream"
  | outOfRange | badText | badOperand | badNumeral | infinite => none

end RetentionPlan.FieldStream
