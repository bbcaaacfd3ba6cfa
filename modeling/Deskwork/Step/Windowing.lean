/-
# Programs and Windows

Starting a program, and bringing a window to the front, changing its size or closing it. The window
is found by its title or by the step that started its program.
-/
import Deskwork.Step.Keyboard
import Deskwork.Step.Waiting

namespace Deskwork

open Deskwork.Number Deskwork.Text

/-! ## Fields -/

/-- What is done. -/
inductive WindowVerb where
  | launch
  | activate
  | maximize
  | minimize
  | restore
  | close
  deriving DecidableEq, Repr

namespace WindowVerb

/-- The word for a verb. -/
def word : WindowVerb → String
  | .launch => "launch"
  | .activate => "activate"
  | .maximize => "maximize"
  | .minimize => "minimize"
  | .restore => "restore"
  | .close => "close"

/-- The verbs in data. -/
def choice : Choice WindowVerb :=
  ⟨"WindowActionType", [.launch, .activate, .maximize, .minimize, .restore, .close],
    fun v => .text v.word⟩

/-- What is done to a window, one after the other. -/
def calls : WindowVerb → List String
  | .launch => []
  | .activate => ["set_focus"]
  | .maximize => ["set_focus", "maximize"]
  | .minimize => ["minimize"]
  | .restore => ["restore", "set_focus"]
  | .close => ["close"]

end WindowVerb

/-- How a window is found. -/
inductive WindowReference where
  | title
  | launchStep
  deriving DecidableEq, Repr

namespace WindowReference

/-- The word for a reference. -/
def word : WindowReference → String
  | .title => "window_title"
  | .launchStep => "launch_action"

/-- The references in data. -/
def choice : Choice WindowReference :=
  ⟨"WindowReferenceType", [.title, .launchStep], fun r => .text r.word⟩

end WindowReference

/-- A step about programs and windows. -/
structure Windowing where
  verb : WindowVerb
  program : String
  arguments : Option (List String)
  reference : WindowReference
  /-- What the title of the window holds. -/
  title : String
  launchPosition : Int
  /-- The milliseconds to wait after a program is started. -/
  delay : Int
  deriving DecidableEq, Repr

namespace Windowing

/-- A step about windows from the fields of its data. -/
def ofFields (fs : List (String × Value)) : Except Fault Windowing := do
  let verb ← Convert.field fs "action_type" (Convert.choice WindowVerb.choice) .activate
  let program ← Convert.field fs "executable_path" Convert.text ""
  let arguments ← Convert.field fs "arguments" (Convert.listOf Convert.text) (some [])
  let reference ←
    Convert.field fs "reference_type" (Convert.choice WindowReference.choice) .title
  let title ← Convert.field fs "window_title" Convert.text ""
  let launchPosition ← Convert.field fs "launch_action_position" Convert.int 0
  let delay ← Convert.field fs "wait_after_launch_ms" Convert.int 1000
  return ⟨verb, program, arguments, reference, title, launchPosition, delay⟩

/-- The fields of a step about windows as data. -/
def fields (w : Windowing) : List (String × Value) :=
  [("action_type", .text w.verb.word), ("executable_path", .text w.program),
    ("arguments", textsValue w.arguments), ("reference_type", .text w.reference.word),
    ("window_title", .text w.title), ("launch_action_position", .int w.launchPosition),
    ("wait_after_launch_ms", .int w.delay)]

/-- The path of the program. -/
def path (w : Windowing) : Files.Path := Files.Path.ofString w.program

/-- The name of the step. -/
def name (w : Windowing) : String :=
  match w.verb with
  | .launch => "Launch: " ++ w.path.name
  | v => "Window " ++ v.word

/-- The text that describes what is done to a window. -/
def describeHandling (w : Windowing) : String :=
  match w.reference with
  | .launchStep => w.verb.word ++ " window launched by step #" ++ intText w.launchPosition
  | .title => w.verb.word ++ " window titled \"" ++ w.title ++ "\""

/-- The text that describes the step. -/
def describe (w : Windowing) : Except Fault String :=
  match w.verb, w.arguments with
  | .launch, none => .error (.unsuitable .missingArguments)
  | .launch, some arguments =>
    .ok (trimEnd ("Run " ++ w.program ++ " " ++ " ".intercalate arguments))
  | _, _ => .ok w.describeHandling

/-- There is a program, a step that started one, or a title. -/
def check (w : Windowing) : Except Fault Unit :=
  match w.verb, w.reference with
  | .launch, _ => if allBlank w.program then .error (.invalid .noExecutable) else .ok ()
  | _, .launchStep => if w.launchPosition ≤ 0 then .error (.invalid .noLaunchStep) else .ok ()
  | _, .title => if allBlank w.title then .error (.invalid .noWindowTitle) else .ok ()

/-- The positions of other steps to which the step refers. -/
def references (w : Windowing) : List Int :=
  if w.verb ≠ .launch && w.reference = .launchStep then [w.launchPosition] else []

/-- A template field overwritten. -/
def write (name : String) (c : Template.Content) (w : Windowing) : Windowing :=
  if name = "executable_path" then { w with program := c.textOr w.program }
  else if name = "arguments" then { w with arguments := w.arguments.map c.textsOr }
  else if name = "window_title" then { w with title := c.textOr w.title }
  else w

/-! ## Running -/

/-- A program started, which gets the next process number. -/
def start (w : Windowing) (arguments : List String) : StepM Process := do
  let s ← get
  let machine := s.desk.machine
  if machine.missingPrograms.contains w.program then
    throw (.failed (.notStarted w.program (.refused .missing w.program none)))
  let machine := machine.record (.launched (w.program :: arguments))
  set { s with desk := { s.desk with
    machine := { machine with nextProcess := machine.nextProcess + 1 } } }
  return ⟨machine.nextProcess, w.path.stem⟩

/-- A program started and kept in the context. -/
def launch (w : Windowing) : StepM Unit := do
  match w.arguments with
  | none => throw (.unsuitable .missingKeys)
  | some arguments =>
    let process ← w.start arguments
    let position := (← get).position
    StepM.changeContext fun c => c.keepProcess position process
    StepM.info ("Process " ++ process.name ++ " (PID " ++ intText process.number
      ++ ") recorded as step #" ++ intText position)
    StepM.sleepMillis w.delay

/-- The window of a process; windows can be handled on one platform only. -/
def findOfProcess (number : Int) : StepM (Option Window) := do
  if (← get).desk.machine.hasWindows then
    StepM.happen (.connected number 5)
    return (← get).desk.machine.windowOf number
  else throw (.failed .noWindows)

/-- The window that the step is about. -/
def findTarget (w : Windowing) : StepM (Option Window) := do
  match w.reference with
  | .title => Waiting.findWindow w.title
  | .launchStep =>
    StepM.changeContext id
    match Table.get? (← get).context.processes w.launchPosition with
    | none => throw (.failed (.noProcess w.launchPosition))
    | some process => findOfProcess process.number

/-- Something done to a window. -/
def handle (w : Windowing) : StepM Unit := do
  match ← w.findTarget with
  | none => throw (.failed (.windowNotFound w.describeHandling))
  | some window =>
    w.verb.calls.forM fun call => StepM.happen (.handled window.title call)
    StepM.sleep 0.1

/-- The step carried out. -/
def run (w : Windowing) : StepM Unit :=
  match w.verb with
  | .launch => w.launch
  | _ => w.handle

end Windowing

end Deskwork
