import RetentionPlan.Text.Quoted

/-!
# Paths

A path is an anchor and the components after it. Reading a path drops empty components and single
dots and keeps double dots; nothing here looks at the disk. Module names are read off the path of a
source file below a classpath root.
-/
namespace RetentionPlan

/-- Where a path starts. Exactly two leading slashes are an anchor of their own. -/
inductive Anchor where
  | relative
  | root
  | doubleRoot
  deriving DecidableEq, Repr

def Anchor.text : Anchor → String
  | relative => ""
  | root => "/"
  | doubleRoot => "//"

structure Path where
  anchor : Anchor
  parts : List String
  deriving DecidableEq, Repr

namespace Path

/-- Cuts a text at every slash. -/
def components (s : String) : List String := (s.toList.splitOn '/').map String.ofList

/-- Components that a path keeps. -/
def keeps (part : String) : Bool := part ≠ "" && part ≠ "."

def anchorOf : List Char → Anchor
  | '/' :: '/' :: '/' :: _ => .root
  | '/' :: '/' :: _ => .doubleRoot
  | '/' :: _ => .root
  | _ => .relative

def ofString (s : String) : Path := ⟨anchorOf s.toList, (components s).filter keeps⟩

/-- The path that names the working directory. -/
def here : Path := ⟨.relative, []⟩

/-- The path as text; the empty relative path is a single dot. -/
def toString (p : Path) : String :=
  if p = here then "." else p.anchor.text ++ String.intercalate "/" p.parts

instance : ToString Path := ⟨toString⟩

def isAbsolute (p : Path) : Bool := p.anchor ≠ .relative

/-- `p` followed by `q`; an absolute `q` takes the place of `p`. -/
def join (p q : Path) : Path := if q.isAbsolute then q else ⟨p.anchor, p.parts ++ q.parts⟩

instance : HDiv Path String Path := ⟨fun p s => p.join (ofString s)⟩

/-- The path read from several texts, one below the other. -/
def ofStrings (ss : List String) : Path := ss.foldl (fun p s => p.join (ofString s)) here

/-- The last component, empty if there is none. -/
def name (p : Path) : String := p.parts.getLastD ""

def parent (p : Path) : Path := ⟨p.anchor, p.parts.dropLast⟩

/-- A name cut before its last dot, if something stands on both sides of that dot. -/
def splitSuffix (name : String) : String × String :=
  let rev := name.toList.reverse
  let suffix := rev.takeWhile (· ≠ '.')
  match rev.drop suffix.length with
  | '.' :: stem =>
    if suffix = [] ∨ stem = [] then (name, "")
    else (String.ofList stem.reverse, String.ofList ('.' :: suffix.reverse))
  | _ => (name, "")

/-- The last component up to its suffix. -/
def stem (p : Path) : String := (splitSuffix p.name).1

/-- The suffix of the last component with its dot, empty if there is none. -/
def suffix (p : Path) : String := (splitSuffix p.name).2

/-- What a name written from a path can fail on. -/
inductive NameError where
  /-- There is no last component to put a suffix on. -/
  | emptyName (path : Path)
  /-- The path does not lie below the base. -/
  | outside (path base : Path)
  deriving DecidableEq, Repr

def NameError.message : NameError → String
  | emptyName p => s!"PosixPath({Text.quoted p.toString}) has an empty name"
  | outside p base =>
    let shown := if base = here then "" else base.toString
    s!"{Text.quoted p.toString} is not in the subpath of {Text.quoted shown} " ++
      "OR one path is relative and the other is absolute."

/-- The path with another suffix in place of its own. -/
def withSuffix (p : Path) (suffix : String) : Except NameError Path :=
  match p.parts.getLast? with
  | none => .error (.emptyName p)
  | some last => .ok ⟨p.anchor, p.parts.dropLast ++ [(splitSuffix last).1 ++ suffix]⟩

/-- The components of `p` below `base`. -/
def relativeTo (p base : Path) : Except NameError Path :=
  if p.anchor = base.anchor ∧ base.parts.isPrefixOf p.parts then
    .ok ⟨.relative, p.parts.drop base.parts.length⟩
  else .error (.outside p base)

/-- Removes double dots together with the component before them. `above` holds the components kept
so far, nearest first. -/
def collapse (above : List String) : List String → List String
  | [] => above.reverse
  | ".." :: rest => collapse above.tail rest
  | part :: rest => collapse (part :: above) rest

/-- The absolute path without double dots, relative ones being taken from `cwd`. -/
def resolve (p cwd : Path) : Path := ⟨.root, collapse [] (cwd.join p).parts⟩

theorem relativeTo_join {p q : Path} (h : q.anchor = .relative) :
    (p.join q).relativeTo p = .ok q := by
  have hq : q.isAbsolute = false := by simp [isAbsolute, h]
  cases q
  simp_all [join, relativeTo]

/-- The empty path has no name to put a suffix on. -/
theorem withSuffix_eq_error_iff {p : Path} {suffix : String} {e : NameError} :
    p.withSuffix suffix = .error e ↔ p.parts = [] ∧ e = .emptyName p := by
  unfold withSuffix
  cases h : p.parts.getLast? with
  | none => simp_all [eq_comm]
  | some last =>
    simp only [reduceCtorEq, false_iff, not_and]
    rintro h'
    simp [h'] at h

end Path
end RetentionPlan
