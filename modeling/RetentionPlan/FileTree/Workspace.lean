import RetentionPlan.FileTree.Node
import RetentionPlan.Path

/-!
# The workspace of a run

A run sees a tree of files, a working directory, a home and a clock. Operations take paths as they
are given and walk component by component, so that a double dot needs the directory before it.
-/
namespace RetentionPlan

/-- What a run sees of the machine. -/
structure Workspace where
  /-- The directory at the root of all paths. -/
  top : FileNode
  /-- The components of the working directory. -/
  cwd : List String
  /-- The home of the user, if it is known. -/
  home : Option String
  /-- The time that the next written file gets. -/
  now : Int

/-- Why a file's text cannot be had. -/
inductive ReadError where
  | access (e : AccessError)
  /-- The bytes are no text. -/
  | notText
  deriving DecidableEq, Repr

namespace Workspace

/-- The working directory as a path. -/
def cwdPath (w : Workspace) : Path := ⟨.root, w.cwd⟩

/-- The most bytes that one component may have. -/
def maxComponent : Nat := 255

/-- The most bytes that a path may have. -/
def maxPath : Nat := 4095

/-- Walks down from a directory. `above` holds the directories passed, nearest first. -/
def walk (above : List FileNode) (node : FileNode) : List String → Except FileCause FileNode
  | [] => .ok node
  | part :: rest =>
    if !node.isDirectory then .error .notDirectory
    else if part = ".." then walk above.tail (above.headD node) rest
    else if maxComponent < part.utf8ByteSize then .error .nameTooLong
    else
      match node.child? part with
      | none => .error .noEntry
      | some child => walk (node :: above) child rest

/-- The components of a path from the root on, double dots included. -/
def absoluteParts (w : Workspace) (p : Path) : List String := (w.cwdPath.join p).parts

/-- What a path leads to, or why it leads nowhere. -/
def stat (w : Workspace) (p : Path) : Except AccessError FileNode :=
  let text := p.toString
  if text.toList.contains '\x00' then .error .nullCharacter
  else if maxPath < text.utf8ByteSize then .error (.refused ⟨.nameTooLong, text⟩)
  else
    match walk [] w.top (w.absoluteParts p) with
    | .ok node => .ok node
    | .error cause => .error (.refused ⟨cause, text⟩)

/-- Like `stat`, but a path that simply leads nowhere is no failure. -/
def stat? (w : Workspace) (p : Path) : Except FileError (Option FileNode) :=
  match w.stat p with
  | .ok node => .ok (some node)
  | .error (.refused e) =>
    if e.cause = .noEntry ∨ e.cause = .notDirectory then .ok none else .error e
  | .error _ => .ok none

def pathExists (w : Workspace) (p : Path) : Except FileError Bool :=
  (w.stat? p).map (·.isSome)

def isFile (w : Workspace) (p : Path) : Except FileError Bool :=
  (w.stat? p).map (·.any FileNode.isFile)

def isDirectory (w : Workspace) (p : Path) : Except FileError Bool :=
  (w.stat? p).map (·.any FileNode.isDirectory)

/-- The absolute path without double dots. -/
def resolve (w : Workspace) (p : Path) : Except AccessError Path :=
  if p.toString.toList.contains '\x00' then .error .nullCharacter
  else .ok (p.resolve w.cwdPath)

/-- Puts the home in place of a tilde at the head of a path. Only the user's own home is known. -/
def expandHome (w : Workspace) (p : Path) : Except AccessError Path :=
  match p.anchor, p.parts with
  | .relative, first :: rest =>
    if first.toList.head? ≠ some '~' then .ok p
    else
      match first, w.home with
      | "~", some home =>
        let bare := String.ofList (home.toList.reverse.dropWhile (· = '/')).reverse
        let start := Path.ofString (if bare = "" then "/" else bare)
        if bare.toList.head? = some '~' then .error .noHome
        else .ok ⟨start.anchor, start.parts ++ rest⟩
      | _, _ => .error .noHome
  | _, _ => .ok p

def readBytes (w : Workspace) (p : Path) : Except AccessError ByteArray :=
  match w.stat p with
  | .error e => .error e
  | .ok (.file content _) => .ok content
  | .ok (.directory _) => .error (.refused ⟨.isDirectory, p.toString⟩)

/-- A text in which every line break is a single line feed. -/
def plainBreaks : List Char → List Char
  | [] => []
  | '\r' :: '\n' :: rest => '\n' :: plainBreaks rest
  | c :: rest => (if c = '\r' then '\n' else c) :: plainBreaks rest

def readText (w : Workspace) (p : Path) : Except ReadError String :=
  match w.readBytes p with
  | .error e => .error (.access e)
  | .ok content =>
    match String.fromUTF8? content with
    | none => .error .notText
    | some s => .ok (String.ofList (plainBreaks s.toList))

def makeOne (w : Workspace) (p : Path) : Except AccessError Workspace :=
  match w.stat p with
  | .ok _ => .error (.refused ⟨.exists, p.toString⟩)
  | .error (.refused ⟨.noEntry, path⟩) =>
    match w.stat p.parent with
    | .ok (.directory _) =>
      .ok { w with top := w.top.put (Path.collapse [] (w.absoluteParts p)) (.directory []) }
    | _ => .error (.refused ⟨.noEntry, path⟩)
  | .error e => .error e

/-- Makes a directory where a plain attempt has failed: no matter if one is there already. -/
def settle (w : Workspace) (p : Path) (e : AccessError) : Except AccessError Workspace :=
  match e with
  | .refused _ =>
    match w.isDirectory p with
    | .ok true => .ok w
    | .ok false => .error e
    | .error e => .error (.refused e)
  | e => .error e

/-- Makes a directory and those above it; `depth` bounds how many. The workspace returned beside a
failure holds the directories made until then. -/
def makeDirectories (w : Workspace) (p : Path) : Nat → Except AccessError Unit × Workspace
  | 0 => (.error (.refused ⟨.noEntry, p.toString⟩), w)
  | depth + 1 =>
    match w.makeOne p with
    | .ok w => (.ok (), w)
    | .error (.refused ⟨.noEntry, path⟩) =>
      if p.parent = p then (.error (.refused ⟨.noEntry, path⟩), w)
      else
        match makeDirectories w p.parent depth with
        | (.error e, w) => (.error e, w)
        | (.ok (), w) =>
          match w.makeOne p with
          | .ok w => (.ok (), w)
          | .error (.refused ⟨.noEntry, path⟩) => (.error (.refused ⟨.noEntry, path⟩), w)
          | .error e =>
            match w.settle p e with
            | .ok w => (.ok (), w)
            | .error e => (.error e, w)
    | .error e =>
      match w.settle p e with
      | .ok w => (.ok (), w)
      | .error e => (.error e, w)

/-- Makes a directory with all that it needs above it. -/
def makeAll (w : Workspace) (p : Path) : Except AccessError Unit × Workspace :=
  w.makeDirectories p (p.parts.length + 2)

/-- Opens a file for writing: `change` gives its new bytes from those that it had. -/
def writeBytes (w : Workspace) (p : Path) (change : ByteArray → ByteArray) :
    Except AccessError Workspace :=
  let written (old : ByteArray) : Workspace :=
    { w with
      top := w.top.put (Path.collapse [] (w.absoluteParts p)) (.file (change old) w.now)
      now := w.now + 1 }
  match w.stat p with
  | .ok (.file old _) => .ok (written old)
  | .ok (.directory _) => .error (.refused ⟨.isDirectory, p.toString⟩)
  | .error (.refused ⟨.noEntry, path⟩) =>
    match w.stat p.parent with
    | .ok (.directory _) => .ok (written ByteArray.empty)
    | _ => .error (.refused ⟨.noEntry, path⟩)
  | .error e => .error e

/-- Writes a text in place of a file's contents. -/
def writeText (w : Workspace) (p : Path) (text : String) : Except AccessError Workspace :=
  w.writeBytes p fun _ => text.toUTF8

/-- Makes the directory of a file and writes its text. -/
def writeBelow (w : Workspace) (p : Path) (text : String) : Except AccessError Unit × Workspace :=
  match w.makeAll p.parent with
  | (.error e, w) => (.error e, w)
  | (.ok (), w) =>
    match w.writeText p text with
    | .error e => (.error e, w)
    | .ok w => (.ok (), w)

end Workspace
end RetentionPlan
