/-!
# Failures of YAML documents

Most faults of a text or of its structure are one failure, as no more is told of them. A few faults
in scalars with a given type are told apart.
-/
namespace RetentionPlan.Yaml

/-- Why a document has no value. -/
inductive Error where
  /-- The text is not YAML, or is more than one document, or has a type that is not known. -/
  | malformed
  /-- An escape gives a number that no character has. -/
  | noCharacter (code : Nat)
  /-- A word is no truth value. -/
  | notBool
  /-- A numeral does not have the form of one. -/
  | notNumber
  /-- A numeral has no digits at all. -/
  | noDigits
  /-- A numeral in base 60 has too many places. -/
  | tooManyPlaces
  /-- A text does not have the form of a point in time. -/
  | notMoment
  /-- A point in time is given by a mapping. -/
  | noMomentText
  /-- There is no such day or time. -/
  | noMoment
  deriving DecidableEq, Repr

end RetentionPlan.Yaml
