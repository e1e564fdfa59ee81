import RetentionPlan.Text.Quoted
import RetentionPlan.Unicode.Decimal

/-!
# Switches of a command line

An argument that begins with a dash is a switch. Long names may be shortened as long as they stay
unique, a value may follow an equals sign, and short switches without values may be joined. After
two dashes alone nothing is a switch.
-/
namespace RetentionPlan.CommandLine

/-- A switch with its names; some take a value. -/
structure Switch where
  names : List String
  takesValue : Bool := false
  deriving DecidableEq, Repr

inductive ArgumentError where
  | ambiguous (given : String) (candidates : List String)
  | missingValue (switch : Switch)
  | needlessValue (switch : Switch) (value : String)
  | badCommand (given : String) (commands : List String)
  | missingCommand
  | unrecognized (args : List String)
  deriving DecidableEq, Repr

def Switch.title (s : Switch) : String := String.intercalate "/" s.names

def ArgumentError.message : ArgumentError → String
  | ambiguous given candidates =>
    s!"ambiguous option: {given} could match " ++ String.intercalate ", " candidates
  | missingValue switch =>
    s!"argument {switch.title}: expected one argument"
  | needlessValue switch value =>
    s!"argument {switch.title}: ignored explicit argument {Text.quoted value}"
  | badCommand given commands =>
    s!"argument command: invalid choice: {Text.quoted given} (choose from " ++
      String.intercalate ", " (commands.map Text.quoted) ++ ")"
  | missingCommand => "the following arguments are required: command"
  | unrecognized args => "unrecognized arguments: " ++ String.intercalate " " args

/-- The value written together with a switch. -/
inductive Attached where
  | none
  /-- After an equals sign. -/
  | equals (value : List Char)
  /-- Right behind a short name. -/
  | joined (value : List Char)

inductive Shape where
  | operand
  /-- Two dashes alone. -/
  | separator
  /-- A switch, or what looks like one but is not known. -/
  | switch (known : Option (Switch × String)) (value : Attached)

structure Argument where
  text : String
  shape : Shape

def allNames (switches : List Switch) : List (String × Switch) :=
  switches.flatMap fun s => s.names.map fun name => (name, s)

def startsWith (start text : String) : Bool := start.toList.isPrefixOf text.toList

/-- The text before and after the first equals sign. -/
def atEquals (cs : List Char) : Option (List Char × List Char) :=
  match cs.dropWhile (· ≠ '=') with
  | _ :: value => some (cs.takeWhile (· ≠ '='), value)
  | [] => none

/-- The switches that an argument may mean, each with the name and the value that it then has. -/
def candidates (switches : List Switch) (cs : List Char) : List (Switch × String × Attached) :=
  let names := allNames switches
  match cs with
  | '-' :: '-' :: _ =>
    let (start, value) := match atEquals cs with
      | some (start, value) => (start, Attached.equals value)
      | none => (cs, .none)
    (names.filter fun (name, _) => startsWith (String.ofList start) name).map
      fun (name, s) => (s, name, value)
  | '-' :: c :: value =>
    names.filterMap fun (name, s) =>
      if name.toList = ['-', c] then some (s, name, .joined value)
      else if startsWith (String.ofList cs) name then some (s, name, .none)
      else none
  | _ => []

def isNegativeNumber (cs : List Char) : Bool :=
  let cs := if cs.getLast? = some '\n' then cs.dropLast else cs
  let isDigit (c : Char) : Bool := (Unicode.digitValue? c).isSome
  match cs with
  | '-' :: rest =>
    match rest.dropWhile isDigit with
    | [] => rest ≠ []
    | '.' :: fraction => fraction ≠ [] && fraction.all isDigit
    | _ => false
  | _ => false

/-- What an argument is that begins with a dash and is longer than that. -/
def switchShape (switches : List Switch) (text : String) : Except ArgumentError Shape :=
  let cs := text.toList
  let names := allNames switches
  match names.lookup text with
  | some s => .ok (.switch (some (s, text)) .none)
  | none =>
    let named := (atEquals cs).bind fun (start, value) =>
      let name := String.ofList start
      (names.lookup name).map fun s => (s, name, Attached.equals value)
    match named with
    | some (s, name, value) => .ok (.switch (some (s, name)) value)
    | none =>
      match candidates switches cs with
      | [(s, name, value)] => .ok (.switch (some (s, name)) value)
      | [] => .ok (if isNegativeNumber cs || cs.contains ' ' then .operand else .switch none .none)
      | several => .error (.ambiguous text (several.map fun (_, name, _) => name))

def shapes (switches : List Switch) : List String → Except ArgumentError (List Argument)
  | [] => .ok []
  | "--" :: rest => .ok (⟨"--", .separator⟩ :: rest.map fun text => ⟨text, .operand⟩)
  | text :: rest => do
    let shape ← match text.toList with
      | '-' :: _ :: _ => switchShape switches text
      | _ => .ok .operand
    return ⟨text, shape⟩ :: (← shapes switches rest)

/-- A switch that was given, and its value. -/
structure Setting where
  switch : Switch
  value : Option String := none

/-- What one argument and those that belong to it come to. -/
structure Taken where
  settings : List Setting
  /-- What is not known. -/
  extras : List String := []
  /-- The arguments that follow. -/
  rest : List Argument

/-- Takes a switch without a value written to it. -/
def takeBare (s : Switch) (rest : List Argument) : Except ArgumentError Taken :=
  if s.takesValue then
    match rest with
    | ⟨text, .operand⟩ :: rest => .ok { settings := [⟨s, some text⟩], rest }
    | _ => .error (.missingValue s)
  else .ok { settings := [⟨s, none⟩], rest }

/-- Takes a switch with a value written right behind its short name; to a switch without a value
this is another short switch. -/
def takeJoined (switches : List Switch) (s : Switch) (value : List Char) (rest : List Argument) :
    Except ArgumentError Taken :=
  if s.takesValue then .ok { settings := [⟨s, some (String.ofList value)⟩], rest }
  else
    match value with
    | [] => .error (.needlessValue s "")
    | c :: more =>
      if c = '-' then .error (.needlessValue s (String.ofList value))
      else
        match (allNames switches).lookup (String.ofList ['-', c]) with
        | none => .ok { settings := [⟨s, none⟩], extras := [String.ofList ('-' :: value)], rest }
        | some next => do
          let taken ← match more with
            | [] => takeBare next rest
            | '=' :: value =>
              if next.takesValue then
                .ok { settings := [⟨next, some (String.ofList value)⟩], rest }
              else .error (.needlessValue next (String.ofList value))
            | more => takeJoined switches next more rest
          return { taken with settings := ⟨s, none⟩ :: taken.settings }

/-- Takes a known switch with what belongs to it. -/
def takeSwitch (switches : List Switch) (s : Switch) (value : Attached) (rest : List Argument) :
    Except ArgumentError Taken :=
  match value with
  | .none => takeBare s rest
  | .equals value =>
    if s.takesValue then .ok { settings := [⟨s, some (String.ofList value)⟩], rest }
    else .error (.needlessValue s (String.ofList value))
  | .joined value => takeJoined switches s value rest

end RetentionPlan.CommandLine
