import RetentionPlan.Path
import RetentionPlan.Source.DottedName
import RetentionPlan.Source.Tree

/-!
# Modules

What is known of a module: its statements, the names that it imports and the types that it declares,
nested ones included. An expression in it that names something is given the qualified name.
-/
namespace RetentionPlan.Source

structure TypeStatement where
  bases : List Expr
  keywords : List (String × Expr)
  decorators : List Expr
  body : List Stmt
  deriving Inhabited

/-- Binds a name. A name keeps its first place, and the last value counts. -/
def bind {α : Type} (id : String) (value : α) : List (String × α) → List (String × α)
  | [] => [(id, value)]
  | (other, old) :: rest =>
    if other = id then (id, value) :: rest else (other, old) :: bind id value rest

def bindAll {α : Type} (bindings : List (String × α)) : List (String × α) :=
  bindings.foldl (fun table (id, value) => bind id value table) []

/-- The module that a relative import starts from: `level` dots lead from the package upwards. -/
def absoluteModule (package : String) (module : Option String) (level : Nat) : String :=
  let parts := if level = 0 || package = "" then [] else dottedParts package
  let base := dotted (parts.take (parts.length - (level - 1)))
  match module with
  | none => base
  | some name => if base = "" then name else base ++ "." ++ name

/-- The names that a statement imports and the qualified names that they stand for. -/
def Stmt.imports (package : String) : Stmt → List (String × String)
  | .importModules names => names.map fun a =>
      match a.as with
      | some id => (id, a.name)
      | none => ((headAndRest a.name).1, (headAndRest a.name).1)
  | .importFrom module level names =>
      let base := absoluteModule package module level
      (names.filter (·.name ≠ "*")).map fun a =>
        (a.as.getD a.name, if base = "" then a.name else base ++ "." ++ a.name)
  | _ => []

mutual
/-- The types that a statement declares, `outer` being put before their names. -/
def Stmt.types (outer : String) : Stmt → List (String × TypeStatement)
  | .type name bases keywords decorators body =>
      (outer ++ name, ⟨bases, keywords, decorators, body⟩) :: typesOf (outer ++ name ++ ".") body
  | _ => []

def typesOf (outer : String) : List Stmt → List (String × TypeStatement)
  | [] => []
  | s :: rest => s.types outer ++ typesOf outer rest
end

def Expr.isName (id : String) : Expr → Bool
  | .name written => written == id
  | _ => false

def Stmt.defines (id : String) : Stmt → Bool
  | .function name .. => name == id
  | .assign targets _ => targets.any (·.isName id)
  | _ => false

structure Module where
  name : String
  path : Path
  body : List Stmt
  /-- What imported names stand for. -/
  imports : List (String × String)
  /-- The types that the module declares, by the names that they have inside it. -/
  types : List (String × TypeStatement)

namespace Module

def initialiserFile : String := "__init__.py"

def ofStatements (name : String) (path : Path) (body : List Stmt) : Module where
  name
  path
  body
  imports :=
    let package := if path.name = initialiserFile then name else beforeLastDot name
    bindAll (body.flatMap (Stmt.imports package))
  types := bindAll (typesOf "" body)

def import? (module : Module) (id : String) : Option String := module.imports.lookup id

def type? (module : Module) (localName : String) : Option TypeStatement :=
  module.types.lookup localName

/-- The qualified names of the declared types. -/
def typeNames (module : Module) : List String :=
  module.types.map fun (localName, _) => module.name ++ "." ++ localName

/-- Names that need no definition. -/
def builtins : List String := builtinText.splitOn " "
where
  builtinText : String :=
    "ArithmeticError AssertionError AttributeError BaseException BaseExceptionGroup " ++
    "BlockingIOError BrokenPipeError BufferError BytesWarning ChildProcessError " ++
    "ConnectionAbortedError ConnectionError ConnectionRefusedError ConnectionResetError " ++
    "DeprecationWarning EOFError Ellipsis EncodingWarning EnvironmentError Exception " ++
    "ExceptionGroup False FileExistsError FileNotFoundError FloatingPointError FutureWarning " ++
    "GeneratorExit IOError ImportError ImportWarning IndentationError IndexError " ++
    "InterruptedError IsADirectoryError KeyError KeyboardInterrupt LookupError MemoryError " ++
    "ModuleNotFoundError NameError None NotADirectoryError NotImplemented NotImplementedError " ++
    "OSError OverflowError PendingDeprecationWarning PermissionError ProcessLookupError " ++
    "RecursionError ReferenceError ResourceWarning RuntimeError RuntimeWarning " ++
    "StopAsyncIteration StopIteration SyntaxError SyntaxWarning SystemError SystemExit " ++
    "TabError TimeoutError True TypeError UnboundLocalError UnicodeDecodeError " ++
    "UnicodeEncodeError UnicodeError UnicodeTranslateError UnicodeWarning UserWarning " ++
    "ValueError Warning ZeroDivisionError __build_class__ __debug__ __doc__ __import__ " ++
    "__loader__ __name__ __package__ __spec__ abs aiter all anext any ascii bin bool " ++
    "breakpoint bytearray bytes callable chr classmethod compile complex copyright credits " ++
    "delattr dict dir divmod enumerate eval exec exit filter float format frozenset getattr " ++
    "globals hasattr hash help hex id input int isinstance issubclass iter len license list " ++
    "locals map max memoryview min next object oct open ord pow print property quit range repr " ++
    "reversed round set setattr slice sorted staticmethod str sum super tuple type vars zip"

def qualifyName (module : Module) (id : String) : String :=
  match module.import? id with
  | some target => target
  | none =>
    let own := module.name ++ "." ++ id
    if (module.type? id).isSome || module.body.any (·.defines id) then own
    else if builtins.contains id then "builtins." ++ id
    else own

/-- The qualified name that an expression stands for, if it names something. A text may name a type
that is declared further down. -/
def qualify (module : Module) : Expr → Option String
  | .call function => module.qualify function
  | .subscript value => module.qualify value
  | .member value name => (module.qualify value).map (· ++ "." ++ name)
  | .name id => some (module.qualifyName id)
  | .text value => some (if value.toList.contains '.' then value else module.qualifyName value)
  | _ => none

end Module
end RetentionPlan.Source
