/-!
# Tokens of YAML documents

The marks and scalars of a document. Blocks that only indentation shows have marks of their own.
-/
namespace RetentionPlan.Yaml

inductive Token where
  /-- The version of the language that a document asks for. -/
  | version (major minor : Nat)
  /-- What a handle at the head of tags stands for. -/
  | tagHandle (handle expansion : String)
  /-- A directive without a meaning. -/
  | directive
  | documentStart
  | documentEnd
  | blockSequenceStart
  | blockMappingStart
  | blockEnd
  | flowSequenceStart
  | flowSequenceEnd
  | flowMappingStart
  | flowMappingEnd
  | blockEntry
  | flowEntry
  | key
  | value
  | reference (name : String)
  | anchor (name : String)
  | tag (handle : Option String) (suffix : String)
  | scalar (text : String) (plain : Bool)
  | streamEnd
  deriving DecidableEq, Repr

end RetentionPlan.Yaml
