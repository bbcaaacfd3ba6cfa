/-
# Faults

Everything that can go wrong, as causes, with the one wording of each. A fault also has a title, the
word by which it is known when it has no text of its own.
-/
import Deskwork.Files.Document
import Deskwork.Time.Moment

namespace Deskwork

open Deskwork.Text Deskwork.Number Deskwork.Files

/-! ## Faults from outside -/

/-- A fault raised by something outside, known by its name. -/
structure Foreign where
  name : String
  text : Option String
  deriving DecidableEq, Repr

namespace Foreign

/-- The wording of a foreign fault; a missing key is quoted. -/
def message (f : Foreign) : String :=
  match f.text with
  | none => ""
  | some s => if f.name = "KeyError" then quote s else s

/-- The faults of the operating system. -/
def isSystem (f : Foreign) : Bool :=
  ["OSError", "IOError", "EnvironmentError", "FileNotFoundError", "FileExistsError",
    "PermissionError", "NotADirectoryError", "IsADirectoryError", "InterruptedError",
    "BlockingIOError", "ChildProcessError", "ProcessLookupError", "TimeoutError",
    "ConnectionError", "ConnectionAbortedError", "ConnectionRefusedError",
    "ConnectionResetError", "BrokenPipeError"].contains f.name

/-- The faults of a wrong value. -/
def isValue (f : Foreign) : Bool :=
  ["ValueError", "UnicodeError"].contains f.name

end Foreign

/-! ## Invalid steps -/

/-- Why the fields of a step are invalid. -/
inductive Invalid where
  | negativeCoordinates
  | noText
  | noKey
  | noWait
  | noWindowTitle
  | noExecutable
  | noLaunchStep
  | noVariableName
  | noJumpTarget
  | noLoopStart
  | noIterations
  | noSource
  | noDestination
  | noTarget
  | noNewName
  | partsInName
  | noFolder
  | noWebhookUrl
  | noTimeout
  /-- A step of another kind says so. -/
  | other (text : String)
  deriving DecidableEq, Repr

/-- The wording of an invalid field. -/
def Invalid.message : Invalid → String
  | .negativeCoordinates => "Coordinates must not be negative"
  | .noText => "Text to type is empty"
  | .noKey => "No key specified"
  | .noWait => "Wait time must be positive"
  | .noWindowTitle => "Window title is empty"
  | .noExecutable => "Executable path is empty"
  | .noLaunchStep => "Launch step position is not set"
  | .noVariableName => "Variable name is empty"
  | .noJumpTarget => "Jump target is not set"
  | .noLoopStart => "Loop start position is not set"
  | .noIterations => "Maximum iterations must be positive"
  | .noSource => "Source path is not specified"
  | .noDestination => "Destination path is not specified"
  | .noTarget => "Target path is not specified"
  | .noNewName => "New name is not specified"
  | .partsInName => "New name must not contain path separators"
  | .noFolder => "Folder path is not specified"
  | .noWebhookUrl => "Webhook URL is not specified"
  | .noTimeout => "Timeout must be positive"
  | .other s => s

/-! ## Failed steps -/

/-- Why a step failed. -/
inductive Failure where
  | unknownKind (tag : String)
  | badPayload (tag : String)
  | noClick (cause : Foreign)
  | noKeyboard
  /-- No keyboard is there, nor a substitute. -/
  | noHotkey (cause : Foreign)
  | unknownKey (name : String)
  | windowTimeout (title : String)
  | notStarted (path : String) (cause : Files.Fault)
  | noProcess (position : Int)
  | windowNotFound (description : String)
  /-- Windows can be handled on one platform only. -/
  | noWindows
  | undefinedVariable (name : String)
  | notNumericVariable (name value : String)
  | notNumericValue (value : String)
  | sourceMissing (path : Path)
  | sameFile (path : Path)
  | destinationTaken (path : Path)
  | notTransferred (verb path : String) (cause : Files.Fault)
  | fileMissing (path : Path)
  | folderMissing (path : Path)
  | notDeleted (path : Path) (cause : Files.Fault)
  | notFound (path : Path)
  | notRenamed (path : Path) (cause : Files.Fault)
  | notCreated (path : String) (cause : Files.Fault)
  | absent (path : Path)
  | webhookTimeout (cause : Foreign)
  | webhookError (cause : Foreign)
  | webhookStatus (status : Int) (reason : String)
  /-- A step of another kind says so. -/
  | other (text : String)
  deriving DecidableEq, Repr

/-- The wording of a failure. -/
def Failure.message : Failure → String
  | .unknownKind tag => "Unknown action type: " ++ tag
  | .badPayload tag => "Invalid payload for action type: " ++ tag
  | .noClick e => "mouse_click failed: " ++ e.message
  | .noKeyboard => "No keyboard backend available (install pynput)"
  | .noHotkey e => "No keyboard backend available: " ++ e.message
  | .unknownKey name => "Unknown key: " ++ name
  | .windowTimeout title => "Timed out waiting for window \"" ++ title ++ "\""
  | .notStarted path e => "Failed to start process '" ++ path ++ "': " ++ e.message
  | .noProcess n => "No process was launched by step #" ++ intText n
  | .windowNotFound d => "Window not found: " ++ d
  | .noWindows => "Window handling is only supported on Windows"
  | .undefinedVariable n => "Variable '" ++ n ++ "' is not defined"
  | .notNumericVariable n v => "Variable '" ++ n ++ "' is not numeric: " ++ v
  | .notNumericValue v => "Value '" ++ v ++ "' is not numeric"
  | .sourceMissing p => "Source file not found: " ++ p.toString
  | .sameFile p => "Source and destination are the same file: " ++ p.toString
  | .destinationTaken p => "Destination already exists: " ++ p.toString
  | .notTransferred verb p e => "Failed to " ++ verb ++ " " ++ p ++ ": " ++ e.message
  | .fileMissing p => "File not found: " ++ p.toString
  | .folderMissing p => "Folder not found: " ++ p.toString
  | .notDeleted p e => "Failed to delete " ++ p.toString ++ ": " ++ e.message
  | .notFound p => "Not found: " ++ p.toString
  | .notRenamed p e => "Failed to rename " ++ p.toString ++ ": " ++ e.message
  | .notCreated p e => "Failed to create folder " ++ p ++ ": " ++ e.message
  | .absent p => "Does not exist: " ++ p.toString
  | .webhookTimeout e => "Webhook timed out: " ++ e.message
  | .webhookError e => "Webhook request failed: " ++ e.message
  | .webhookStatus n reason => "Webhook failed: HTTP " ++ intText n ++ " " ++ reason
  | .other s => s

/-! ## Lost control -/

/-- Why control cannot go on. -/
inductive Misrouting where
  /-- There is no engine whose steps could be looked up. -/
  | noEngine
  | noSuchStep (position : Int) (count : Nat)
  | wrongKind (position : Int) (actual expected : String)
  /-- A loop ends at or before its start. -/
  | loopBackward (start finish : Int)
  /-- A step refers to a position at which there is no step. -/
  | badReference (position : Int) (name : String) (target : Int) (count : Nat)
  | stepLimit (limit : Int)
  /-- Control would go to a position at which there is no step. -/
  | badTarget (position : Int) (name : String) (target : Int)
  /-- A step of another kind says so. -/
  | other (text : String)
  deriving DecidableEq, Repr

/-- The wording of a reference to a position at which there is no step. -/
def missingStepText (target : Int) (count : Nat) : String :=
  "step #" ++ intText target ++ " does not exist (1.." ++ toString count ++ ")"

/-- The wording of lost control. -/
def Misrouting.message : Misrouting → String
  | .noEngine => "No script engine bound to the execution context"
  | .noSuchStep p n => "Step #" ++ intText p ++ " does not exist (1.." ++ toString n ++ ")"
  | .wrongKind p a e => "Step #" ++ intText p ++ " is " ++ a ++ ", expected " ++ e
  | .loopBackward s e =>
    "Loop start #" ++ intText s ++ " must precede loop end #" ++ intText e
  | .badReference p n t c => "#" ++ intText p ++ " " ++ n ++ ": " ++ missingStepText t c
  | .stepLimit n => "Step limit of " ++ intText n ++ " exceeded (runaway loop?)"
  | .badTarget p n t => "#" ++ intText p ++ " " ++ n ++ ": invalid target #" ++ intText t
  | .other s => s

/-! ## Unsuitable values -/

/-- Why a value does not suit a field; a type is named as messages name it. -/
inductive Unsuitable where
  | notBoolean (text : String)
  | notMember (shown enumeration : String)
  | notWhole (type : String)
  | notFloat (type : String)
  | noItems (type : String)
  | missingKeys
  | missingArguments
  | noMemberNamed (name : String)
  deriving DecidableEq, Repr

/-- The wording of an unsuitable value. -/
def Unsuitable.message : Unsuitable → String
  | .notBoolean s => "Not a boolean: " ++ quote s
  | .notMember shown enumeration => shown ++ " is not a valid " ++ enumeration
  | .notWhole t =>
    "int() argument must be a string, a bytes-like object or a real number, not '" ++ t ++ "'"
  | .notFloat t => "float() argument must be a string or a real number, not '" ++ t ++ "'"
  | .noItems t => "'" ++ t ++ "' object is not iterable"
  | .missingKeys => "Value after * must be an iterable, not NoneType"
  | .missingArguments => "can only join an iterable"
  | .noMemberNamed n => quote n

/-- The title of an unsuitable value. -/
def Unsuitable.title : Unsuitable → String
  | .notBoolean _ | .notMember _ _ => "ValueError"
  | .noMemberNamed _ => "KeyError"
  | _ => "TypeError"

/-! ## All faults -/

/-- A fault. -/
inductive Fault where
  | invalid (why : Invalid)
  | failed (why : Failure)
  | control (why : Misrouting)
  | unsuitable (why : Unsuitable)
  | numeral (why : NumeralFault)
  | conversion (why : ConversionFault)
  | time (why : Time.Fault)
  | file (why : Files.Fault)
  | noScript (path : Path)
  | unreadableScript (path : Path) (why : Unreadable)
  | scriptNotObject
  | stepsNotList
  | stepNotObject (index : Nat)
  | badStep (index : Nat) (why : Fault)
  | unreadableTasks (path : Path) (why : Unreadable)
  | tasksNotList (path : Path)
  | taskNotObject (index : Nat)
  | badTask (index : Nat) (why : Fault)
  | recordClosed (id : String)
  | noCapacity
  /-- A history has more room than can be had. -/
  | hugeCapacity
  /-- A value of a type has nothing of that name. -/
  | noMember (type name : String)
  /-- Orders are nested too deeply. -/
  | tooDeep
  | untagged (name : String)
  | duplicateKind (tag : String)
  | unknownLevel (name : String)
  /-- A step has nothing to do. -/
  | unimplemented
  /-- Something outside raised a fault. -/
  | foreign (why : Foreign)
  deriving DecidableEq

namespace Fault

/-- The fault that something outside raised: some names stand for faults of steps. -/
def ofForeign (f : Foreign) : Fault :=
  match f.name with
  | "ActionError" => .failed (.other f.message)
  | "ValidationError" => .invalid (.other f.message)
  | "ControlFlowError" => .control (.other f.message)
  | _ => .foreign f

/-- The wording of a fault. -/
def message : Fault → String
  | .invalid why => why.message
  | .failed why => why.message
  | .control why => why.message
  | .unsuitable why => why.message
  | .numeral why => why.message
  | .conversion why => why.message
  | .time why => why.message
  | .file why => why.message
  | .noScript p => "File not found: " ++ p.toString
  | .unreadableScript p why => "Failed to read script " ++ p.toString ++ ": " ++ why.message
  | .scriptNotObject => "Script must be a JSON object"
  | .stepsNotList => "'actions' must be a list"
  | .stepNotObject i => "Step #" ++ toString i ++ " is not an object"
  | .badStep i why => "Step #" ++ toString i ++ ": " ++ why.message
  | .unreadableTasks p why => "Failed to read tasks from " ++ p.toString ++ ": " ++ why.message
  | .tasksNotList p => p.toString ++ ": expected a list of tasks"
  | .taskNotObject i => "Task #" ++ toString i ++ " is not an object"
  | .badTask i why => "Task #" ++ toString i ++ ": " ++ why.message
  | .recordClosed id => "Execution record " ++ id ++ " is already finished"
  | .noCapacity => "History capacity must be at least 1"
  | .hugeCapacity => "Python int too large to convert to C ssize_t"
  | .noMember type name => "'" ++ type ++ "' object has no attribute " ++ quote name
  | .tooDeep => "maximum recursion depth exceeded"
  | .untagged name => name ++ " has no kind tag"
  | .duplicateKind tag => "Duplicate action kind: " ++ tag
  | .unknownLevel name => quote name
  | .unimplemented => ""
  | .foreign why => why.message

/-- The title of a refusal of the system. -/
def refusalTitle : Refusal → String
  | .missing => "FileNotFoundError"
  | .notFolder => "NotADirectoryError"
  | .isFolder => "IsADirectoryError"
  | .taken => "FileExistsError"
  | _ => "OSError"

/-- The title of a fault of the calendar. -/
def timeTitle : Time.Fault → String
  | .outOfCalendar | .longSpan _ | .hugeSpan => "OverflowError"
  | .mixedOrder | .mixedSpan | .notText => "TypeError"
  | .badText _ | .badPart _ => "ValueError"

/-- The title of a fault of the files. -/
def fileTitle : Files.Fault → String
  | .refused why _ _ => refusalTitle why
  | .sameFile _ _ => "SameFileError"
  | .badText _ => "UnicodeDecodeError"
  | .nullCharacter | .noName _ | .badName _ => "ValueError"

/-- The title of a fault: the word by which it is known. -/
def title : Fault → String
  | .invalid _ => "ValidationError"
  | .failed _ => "ActionError"
  | .control _ => "ControlFlowError"
  | .unsuitable why => why.title
  | .numeral _ => "ValueError"
  | .conversion .notANumber => "ValueError"
  | .conversion _ => "OverflowError"
  | .time why => timeTitle why
  | .file why => fileTitle why
  | .noScript _ | .unreadableScript _ _ | .scriptNotObject | .stepsNotList | .stepNotObject _
  | .badStep _ _ => "ScriptLoadError"
  | .unreadableTasks _ _ | .tasksNotList _ | .taskNotObject _ | .badTask _ _ => "TaskStoreError"
  | .recordClosed _ => "RuntimeError"
  | .noCapacity | .untagged _ | .duplicateKind _ => "ValueError"
  | .hugeCapacity => "OverflowError"
  | .noMember _ _ => "AttributeError"
  | .tooDeep => "RecursionError"
  | .unknownLevel _ => "KeyError"
  | .unimplemented => "NotImplementedError"
  | .foreign why => why.name

/-- A step may report a fault of this sort about itself. -/
def isAction : Fault → Bool
  | .invalid _ | .failed _ | .control _ => true
  | _ => false

/-- Control is lost. -/
def isControl : Fault → Bool
  | .control _ => true
  | _ => false

/-- A wrong value caused the fault. -/
def isValue : Fault → Bool
  | .foreign why => why.isValue
  | f => f.title == "ValueError" || f.title == "UnicodeDecodeError"

/-- A wrong type caused the fault. -/
def isType (f : Fault) : Bool :=
  f.title == "TypeError"

/-- A missing key caused the fault. -/
def isKey (f : Fault) : Bool :=
  f.title == "KeyError"

/-- The operating system caused the fault. -/
def isSystem : Fault → Bool
  | .file (.refused _ _ _) | .file (.sameFile _ _) => true
  | .foreign why => why.isSystem
  | _ => false

/-- A script could not be loaded. -/
def isScript (f : Fault) : Bool :=
  f.title == "ScriptLoadError"

/-- Tasks could not be loaded. -/
def isStore (f : Fault) : Bool :=
  f.title == "TaskStoreError"

/-- The text under which a fault is recorded: its wording, or its title when it has none. -/
def summary (f : Fault) : String :=
  if f.message.isEmpty then f.title else f.message

end Fault

end Deskwork
