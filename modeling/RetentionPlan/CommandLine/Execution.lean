import RetentionPlan.CommandLine.Command
import RetentionPlan.Config
import RetentionPlan.Logging
import RetentionPlan.Plan.Analysis
import RetentionPlan.Registration.Dump
import RetentionPlan.Source.Classpath
import RetentionPlan.Yaml.Document

/-!
# Running a command

A command sees the files, the environment and the installed providers, and leaves text, changed
files and an exit code. Faults that a user can mend end it with a message; others end it as they
are.
-/
namespace RetentionPlan

/-- Settings are read with the library's own reader of YAML. -/
def Config.load (w : Workspace) (path : Path) (environment : Config.Environment) :
    Except ConfigError Config :=
  Config.loadBy Yaml.Document.read w path environment

namespace CommandLine

open Loading (Fault)

/-- What ends a command without an exit code of its own. -/
inductive Failure where
  | access (cause : AccessError)
  | config (cause : ConfigError)
  | fault (cause : Fault)
  deriving DecidableEq, Repr

inductive Ending where
  | exit (code : Nat)
  | failed (cause : Failure)
  deriving DecidableEq, Repr

structure Outcome where
  ending : Ending
  /-- What it prints. -/
  output : String := ""
  /-- What it shows on the console beside that. -/
  console : String := ""
  workspace : Workspace

structure Surroundings where
  workspace : Workspace
  environment : Config.Environment := []
  providers : List Provider := []

/-- A command under way. -/
structure Session where
  workspace : Workspace
  logging : Logging := {}
  console : String := ""

namespace Session

def record (s : Session) (journal : Journal) : Session :=
  let (shown, workspace) := s.logging.record s.workspace journal
  { s with workspace, console := s.console ++ shown }

def fail (s : Session) (message : String) : Outcome :=
  ⟨.exit 1, "", s.console ++ message ++ "\n", s.workspace⟩

def stop (s : Session) (cause : Failure) : Outcome := ⟨.failed cause, "", s.console, s.workspace⟩

def done (s : Session) (lines : List String) : Outcome :=
  ⟨.exit 0, String.join (lines.map (· ++ "\n")), s.console, s.workspace⟩

/-- Ends a plan that a fault made fail, unless it is a fault of the files. -/
def failPlan (s : Session) (message : String) : Outcome :=
  s.fail s!"regplan plan failed: {message}\nRun with --verbose for more details."

/-- Ends a plan for a path that cannot be used. -/
def failAccess (s : Session) (cause : AccessError) : Outcome :=
  match cause with
  | .refused _ => s.stop (.access cause)
  | cause => s.failPlan cause.message

def failWith (s : Session) (e : Plan.PlanError) : Outcome :=
  match e with
  | .fault (.access cause) => s.failAccess cause
  | .manifest cause =>
    match cause.cause with
    | .refused _ => s.fail s!"regplan plan failed: {cause.message}"
    | why => s.failAccess why
  | e => s.failPlan e.message

end Session

/-- A path as it is told to the user: from the working directory on if it lies there. -/
def toldPath (w : Workspace) (path : Path) : Except AccessError String := do
  match w.resolve path with
  | .error .nullCharacter => return path.toString
  | .error e => throw e
  | .ok resolved =>
    match resolved.relativeTo w.cwdPath with
    | .ok below => return below.toString
    | .error _ => return path.toString

def plan (s : Session) (config : Config) (providers : List Provider) (reachable : List String)
    (registrations : Option Path) : Outcome :=
  let (planner, journal) := config.planner providers {}
  match planner with
  | .error e => (s.record journal).failPlan e.message
  | .ok planner =>
    match config.classpath.mapM (Scan.resolvedRoot s.workspace) with
    | .error e => (s.record journal).failAccess e
    | .ok classpath =>
      let loader := Source.sourceLoader s.workspace classpath
      let ((result, run), _) :=
        (Plan.Run.complete loader classpath reachable ⟨s.workspace, planner, []⟩).run []
      let s := { s with workspace := run.workspace }.record run.planner.journal
      match result with
      | .error e => s.failWith e
      | .ok _ =>
        let sink := run.planner.sink
        let (dumped, workspace) : Except AccessError Unit × Workspace := match registrations with
          | none => (.ok (), s.workspace)
          | some path => sink.dump s.workspace path
        let s := { s with workspace }
        match dumped with
        | .error e => s.stop (.access e)
        | .ok () =>
          let summary := s!"{run.planner.decisions.size} decisions, {sink.types.size} types " ++
            s!"registered, {sink.serialization.size} for serialization"
          match config.manifest with
          | none => s.done [summary]
          | some path =>
            match toldPath s.workspace path with
            | .ok told => s.done [summary, s!"Manifest written to {told}"]
            | .error e => s.stop (.access e)

/-- Lists the types of a project. -/
def scan (s : Session) (config : Config) : Outcome :=
  match config.classpath.mapM (Scan.resolvedRoot s.workspace) with
  | .error e => s.stop (.access e)
  | .ok classpath =>
    let loader := Source.sourceLoader s.workspace classpath
    let scanner := Scan.Scanner.ofTexts config.excludePaths config.workers
    let ((found, journal), _) :=
      (Scan.typeUniverse s.workspace scanner loader config.classpath).run []
    let s := s.record journal
    match found.toExcept with
    | .error e => s.stop (.fault e)
    | .ok ds => s.done (sortedTexts (ds.map (·.name)))

def run (around : Surroundings) (command : Command) : Outcome :=
  let (configured, logging, workspace) :=
    Logging.configure around.workspace command.verbose command.quiet command.logFile
  let s : Session := { workspace, logging }
  match configured with
  | .error e => s.stop (.access e)
  | .ok () =>
    match workspace.expandHome command.project with
    | .error e => s.stop (.access e)
    | .ok project =>
      match workspace.pathExists project with
      | .error e => s.stop (.access (.refused e))
      | .ok false => s.fail s!"Project path not found: {project}"
      | .ok true =>
        match Config.load workspace project around.environment with
        | .error e =>
          match e with
          | .unreadable .. | .malformed _ | .notMapping _ | .workers =>
            s.fail ("Invalid configuration: " ++ e.message?.getD "")
          | .access cause => s.stop (.access cause)
          | e => s.stop (.config e)
        | .ok config =>
          match command.action with
          | .plan reachable manifest registrations =>
            let config := { config with manifest := manifest.or config.manifest }
            plan s config around.providers reachable registrations
          | .scan => scan s config

/-- One line on how the program is called. -/
def usage : String :=
  "usage: regplan [-v] [-q] [--log-file PATH] \x7bplan,scan\x7d [path]\n"

/-- Understands a command line and runs the command. -/
def execute (around : Surroundings) (args : List String) : Outcome :=
  match understand args with
  | .error e => ⟨.exit 2, "", e.message ++ "\n", around.workspace⟩
  | .ok .help => ⟨.exit 0, usage, "", around.workspace⟩
  | .ok (.run command) => run around command

end CommandLine
end RetentionPlan
