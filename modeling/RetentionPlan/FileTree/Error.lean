import RetentionPlan.Text.Quoted

/-!
# Failures of file operations
-/
namespace RetentionPlan

/-- Why the system refuses a file operation. -/
inductive FileCause where
  | noEntry
  | exists
  | notDirectory
  | isDirectory
  | nameTooLong
  deriving DecidableEq, Repr

def FileCause.number : FileCause → Nat
  | noEntry => 2
  | «exists» => 17
  | notDirectory => 20
  | isDirectory => 21
  | nameTooLong => 36

/-- The system's words for a cause. -/
def FileCause.text : FileCause → String
  | noEntry => "No such file or directory"
  | «exists» => "File exists"
  | notDirectory => "Not a directory"
  | isDirectory => "Is a directory"
  | nameTooLong => "File name too long"

/-- A refused file operation and the path that it was given. -/
structure FileError where
  cause : FileCause
  path : String
  deriving DecidableEq, Repr

/-- The wording of a refused operation. -/
def FileError.message (e : FileError) : String :=
  s!"[Errno {e.cause.number}] {e.cause.text}: {Text.quoted e.path}"

/-- Why a path cannot be used. -/
inductive AccessError where
  | refused (e : FileError)
  /-- The path holds the character NUL. -/
  | nullCharacter
  /-- The path starts from the home of a user who has none. -/
  | noHome
  deriving DecidableEq, Repr

def AccessError.message : AccessError → String
  | refused e => e.message
  | nullCharacter => "embedded null byte"
  | noHome => "Could not determine home directory."

end RetentionPlan
