import RetentionPlan.FileTree.Workspace
import RetentionPlan.Journal

/-!
# Where records are shown

Records go to the console from a level on, and all of them to a log file if there is one. Text is
added at the end of the log file.
-/
namespace RetentionPlan

structure Logging where
  /-- The least level of a record; without one nothing is set up. -/
  threshold : Option Level := none
  /-- The least level that the console shows. -/
  console : Option Level := none
  /-- The log file, if there is one. -/
  file : Option Path := none

namespace Logging

/-- The least level that the console shows: all records if it is to be verbose, else only warnings
and errors if it is to be quiet. -/
def consoleLevel (verbose quiet : Bool) : Level :=
  if verbose then .debug else if quiet then .warning else .info

/-- Sets up the console and a log file, for which directories are made. If the log file cannot be
opened, the console is set up nevertheless. -/
def configure (w : Workspace) (verbose quiet : Bool) (file : Option Path) :
    Except AccessError Unit × Logging × Workspace :=
  let level := consoleLevel verbose quiet
  match file with
  | none => (.ok (), ⟨some level, some level, none⟩, w)
  | some path =>
    let logging : Logging := ⟨some .debug, some level, none⟩
    match w.makeAll path.parent with
    | (.error e, w) => (.error e, logging, w)
    | (.ok (), w) =>
      let path := path.resolve w.cwdPath
      match w.writeBytes path id with
      | .error e => (.error e, logging, w)
      | .ok w => (.ok (), { logging with file := some path }, w)

/-- The levels of the places where records are shown. -/
def handlerLevels (l : Logging) : List Level :=
  l.console.toList ++ l.file.toList.map fun _ => .debug

/-- Is a record shown somewhere that shows records from a level on? -/
def passes (l : Logging) (least : Level) (r : Record) : Bool :=
  l.threshold.any fun t => t.number ≤ r.level.number && least.number ≤ r.level.number

def consoleLine (r : Record) : String := s!"[{programName}] {r.level.text} {r.text}\n"

def fileLine (r : Record) : String := s!"{r.level.text} {areaName r.area}: {r.text}\n"

def consoleText (l : Logging) (journal : Journal) : String :=
  match l.console with
  | none => ""
  | some least => String.join ((journal.filter (l.passes least)).map consoleLine)

/-- What the log file gets of records. -/
def fileText (l : Logging) (journal : Journal) : String :=
  String.join ((journal.filter (l.passes .debug)).map fileLine)

/-- Shows records: the text on the console, and the files with the log. -/
def record (l : Logging) (w : Workspace) (journal : Journal) : String × Workspace :=
  let shown := l.consoleText journal
  match l.file with
  | none => (shown, w)
  | some path =>
    match w.writeBytes path (· ++ (l.fileText journal).toUTF8) with
    | .error _ => (shown, w)
    | .ok w => (shown, w)

end Logging
end RetentionPlan
