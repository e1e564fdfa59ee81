import RetentionPlan.Pattern
import RetentionPlan.Unicode.Blank

/-!
# Exclusions of a scan

An exclusion is a wildcard pattern with marks at its ends: a trailing slash restricts it to
directories, a leading one ties it to the classpath root. A pattern with a slash inside is compared
with the whole path below the root, any other with each component.
-/
namespace RetentionPlan.Scan

/-- A pattern that keeps files or directories out of a scan. -/
structure Exclusion where
  pattern : String
  directoryOnly : Bool
  anchored : Bool
  hasSlash : Bool
  deriving DecidableEq, Repr

namespace Exclusion

/-- Reads an exclusion; blank text is none. -/
def ofString? (text : String) : Option Exclusion :=
  let cs := (Unicode.trim text).toList
  if cs = [] then none
  else
    let directoryOnly := cs.getLast? = some '/'
    let cs := if directoryOnly then cs.dropLast else cs
    let anchored := cs.head? = some '/'
    let cs := if anchored then cs.drop 1 else cs
    some ⟨String.ofList cs, directoryOnly, anchored, cs.contains '/'⟩

/-- Does the exclusion apply to the path `relative` below the root? -/
def applies (x : Exclusion) (relative : String) (isDirectory : Bool) : Bool :=
  if x.pattern = "" then false
  else if x.directoryOnly && !isDirectory then false
  else if x.anchored || x.hasSlash then
    Pattern.isMatch x.pattern relative ||
      (x.directoryOnly && (x.pattern.toList ++ ['/']).isPrefixOf relative.toList)
  else (relative.toList.splitOn '/').any fun part =>
    Pattern.matchesChars (Pattern.parse x.pattern) part

end Exclusion

/-- Is a path below the root kept out by any of the exclusions? -/
def excluded (exclusions : List Exclusion) (relative : String) (isDirectory : Bool) : Bool :=
  exclusions.any (·.applies relative isDirectory)

end RetentionPlan.Scan
