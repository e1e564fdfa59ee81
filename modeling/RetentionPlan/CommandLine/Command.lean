import RetentionPlan.CommandLine.Switch
import RetentionPlan.Journal
import RetentionPlan.Path

/-!
# Commands

A command line has switches, a command, and switches and a path for the command. Switches for what
is shown may stand on either side; those behind the command count.
-/
namespace RetentionPlan.CommandLine

inductive Action where
  /-- Plans a project with the types that are reported as reachable. -/
  | plan (reachable : List String) (manifest registrations : Option Path)
  /-- Lists the types of a project. -/
  | scan
  deriving Repr

structure Command where
  verbose : Bool := false
  quiet : Bool := false
  logFile : Option Path := none
  /-- The project. -/
  project : Path
  action : Action
  deriving Repr

/-- What a command line asks for. -/
inductive Request where
  | run (command : Command)
  | help

/-- What is wrong, and which command complains. -/
structure UsageError where
  program : String
  cause : ArgumentError
  deriving DecidableEq, Repr

def UsageError.message (e : UsageError) : String := s!"{e.program}: error: {e.cause.message}"

def helpSwitch : Switch := ⟨["-h", "--help"], false⟩
def verboseSwitch : Switch := ⟨["-v", "--verbose"], false⟩
def quietSwitch : Switch := ⟨["-q", "--quiet"], false⟩
def logFileSwitch : Switch := ⟨["--log-file"], true⟩
def reachableSwitch : Switch := ⟨["--reachable"], true⟩
def manifestSwitch : Switch := ⟨["--manifest"], true⟩
def registrationsSwitch : Switch := ⟨["--registrations"], true⟩

def commonSwitches : List Switch := [helpSwitch, verboseSwitch, quietSwitch, logFileSwitch]

def commandNames : List String := ["plan", "scan"]

def switchesOf (command : String) : List Switch :=
  if command = "plan" then
    commonSwitches ++ [reachableSwitch, manifestSwitch, registrationsSwitch]
  else commonSwitches

/-- The arguments read so far. -/
structure Progress where
  settings : List Setting := []
  /-- The operand, once its place is taken; it may be left out at that place. -/
  operand : Option (Option String) := none
  extras : List String := []
  help : Bool := false

def Progress.add (p : Progress) (taken : Taken) : Progress :=
  { p with
    settings := p.settings ++ taken.settings
    extras := p.extras ++ taken.extras
    help := taken.settings.any (·.switch = helpSwitch) }

/-- Takes the operand of a command, with two dashes before or behind it. -/
def takeOperand : List Argument → Option String × List Argument
  | ⟨_, .separator⟩ :: ⟨text, .operand⟩ :: rest => (some text, rest)
  | ⟨_, .separator⟩ :: rest => (none, rest)
  | ⟨text, .operand⟩ :: ⟨_, .separator⟩ :: rest => (some text, rest)
  | ⟨text, .operand⟩ :: rest => (some text, rest)
  | args => (none, args)

/-- Reads the arguments of a command, which takes one operand. What is left over is kept. -/
def readOperandAndSwitches (switches : List Switch) (fuel : Nat) (p : Progress)
    (args : List Argument) : Except ArgumentError Progress :=
  match fuel, args with
  | 0, _ | _, [] => .ok p
  | fuel + 1, ⟨text, .switch known value⟩ :: rest =>
    match known with
    | none => readOperandAndSwitches switches fuel { p with extras := p.extras ++ [text] } rest
    | some (s, _) => do
      let taken ← takeSwitch switches s value rest
      let p := p.add taken
      if p.help then return p else readOperandAndSwitches switches fuel p taken.rest
  | fuel + 1, arg :: rest =>
    match p.operand with
    | some _ =>
      readOperandAndSwitches switches fuel { p with extras := p.extras ++ [arg.text] } rest
    | none =>
      let (operand, rest) := takeOperand (arg :: rest)
      readOperandAndSwitches switches fuel { p with operand := some operand } rest

/-- Reads switches up to the command; gives the arguments from the command on. -/
def readSwitches (switches : List Switch) (fuel : Nat) (p : Progress) (args : List Argument) :
    Except ArgumentError (Progress × List Argument) :=
  match fuel, args with
  | fuel + 1, ⟨text, .switch known value⟩ :: rest =>
    match known with
    | none => readSwitches switches fuel { p with extras := p.extras ++ [text] } rest
    | some (s, _) => do
      let taken ← takeSwitch switches s value rest
      let p := p.add taken
      if p.help then return (p, []) else readSwitches switches fuel p taken.rest
  | _, args => .ok (p, args)

def lastValue (settings : List Setting) (s : Switch) : Option String :=
  ((settings.filter (·.switch = s)).getLast?).bind (·.value)

def commandOf (name : String) (settings : List Setting) (operand : Option String) : Command :=
  let given (s : Switch) : Bool := settings.any (·.switch = s)
  let path (s : Switch) : Option Path := (lastValue settings s).map .ofString
  { verbose := given verboseSwitch
    quiet := given quietSwitch
    logFile := path logFileSwitch
    project := .ofString (operand.getD ".")
    action :=
      if name = "plan" then
        .plan ((settings.filter (·.switch = reachableSwitch)).filterMap (·.value))
          (path manifestSwitch) (path registrationsSwitch)
      else .scan }

/-- Understands a command line. What no one takes is an error only if all else is right. -/
def understand (args : List String) : Except UsageError Request := do
  let complain {α : Type} (program : String) (result : Except ArgumentError α) :
      Except UsageError α :=
    result.mapError fun cause => ⟨program, cause⟩
  let all ← complain programName (shapes commonSwitches args)
  let (before, rest) ← complain programName (readSwitches commonSwitches (all.length + 1) {} all)
  if before.help then return .help
  match rest.map (·.text) with
  | [] | ["--"] => throw ⟨programName, .missingCommand⟩
  | name :: own =>
    if !commandNames.contains name then throw ⟨programName, .badCommand name commandNames⟩
    let program := s!"{programName} {name}"
    let switches := switchesOf name
    let own ← complain program (shapes switches own)
    let after ← complain program (readOperandAndSwitches switches (own.length + 1) {} own)
    if after.help then return .help
    match before.extras ++ after.extras with
    | [] => return .run (commandOf name (before.settings ++ after.settings) after.operand.join)
    | extras => throw ⟨programName, .unrecognized extras⟩

end RetentionPlan.CommandLine
