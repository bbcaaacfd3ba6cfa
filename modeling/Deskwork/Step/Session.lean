/-
# Sessions

What a step sees while it runs: its surroundings, the context of the run, the kinds of the steps
around it, and its own progress. Step bodies are programs over a session that may fail.
-/
import Deskwork.Context

namespace Deskwork

open Deskwork.Number

/-! ## Control -/

/-- How control goes on after a step. -/
inductive Transfer where
  | next
  | skipNext
  | jump
  | loopBack
  | exit
  deriving DecidableEq, Repr

/-- The word for a transfer. -/
def Transfer.word : Transfer → String
  | .next => "next"
  | .skipNext => "skip_next"
  | .jump => "jump"
  | .loopBack => "loop_back"
  | .exit => "exit"

/-- A transfer of control that a step requests. -/
structure Signal where
  transfer : Transfer
  /-- The position to which it goes, where that matters. -/
  target : Int
  deriving DecidableEq, Repr

/-! ## Progress -/

/-- What a step carries from one moment to the next while scripts run. -/
structure Progress where
  lastError : Option String
  control : Option Signal
  /-- How often a loop was repeated. -/
  iteration : Int
  /-- How often it was attempted so far. -/
  visits : Nat
  /-- Its position in the last script that was made ready with it, from one; zero before. -/
  place : Nat
  deriving DecidableEq, Repr

/-- The progress of a step that never ran. -/
def Progress.fresh : Progress := ⟨none, none, 0, 0, 0⟩

/-! ## Sessions -/

/-- The source of entries about a run as a whole. -/
def engineSource : String := "Engine"

/-- What a step sees while it runs: the desk and the context, what it can tell of its engine, and its own
position, name, and progress. -/
structure Session where
  desk : Desk
  context : Context
  inUse : Bool
  kinds : Option (List String)
  running : Bool
  /-- The position of the step, from one; zero when it has none. -/
  position : Int
  name : String
  progress : Progress
  /-- The positions of the steps that this step disabled. -/
  disabled : List Int

/-- A program over a session that may fail. -/
abbrev StepM := ExceptT Fault (StateM Session)

namespace StepM

/-- The session changed. -/
def change (f : Session → Session) : StepM Unit := modify f

/-- The surroundings changed. -/
def changeDesk (f : Desk → Desk) : StepM Unit :=
  change fun s => { s with desk := f s.desk }

/-- The context changed. -/
def changeContext (f : Context → Context) : StepM Unit :=
  change fun s => { s with context := f s.context, inUse := true }

/-- The files changed by an operation, whose fault is given back. -/
def changeFiles (f : Files.Tree → Files.Outcome) : StepM (Except Files.Fault Unit) := do
  let s ← get
  let (r, files) := f s.desk.machine.files
  set { s with desk := { s.desk with machine := { s.desk.machine with files := files } } }
  return r

/-- The files. -/
def files : StepM Files.Tree := do return (← get).desk.machine.files

/-- A question about the files. -/
def askFiles {α : Type} (q : Files.Tree → Except Files.Fault α) : StepM α := do
  match q (← files) with
  | .ok a => return a
  | .error f => throw (.file f)

/-- An event. -/
def happen (e : Event) : StepM Unit := changeDesk fun d => d.record e

/-! ## Logging -/

/-- A debugging entry of the step. -/
def debug (message : String) : StepM Unit :=
  change fun s => { s with desk := s.desk.debug s.name message }

/-- An informational entry of the step. -/
def info (message : String) : StepM Unit :=
  change fun s => { s with desk := s.desk.info s.name message }

/-- A warning of the step. -/
def warn (message : String) : StepM Unit :=
  change fun s => { s with desk := s.desk.warn s.name message }

/-- An error of the step, which is also kept as its last error. -/
def error (message : String) : StepM Unit :=
  change fun s =>
    { s with
      desk := s.desk.error s.name message
      progress := { s.progress with lastError := some message } }

/-! ## Pauses -/

/-- A pause in the given surroundings. -/
def pauseWith (sleep : Context → Desk → Except Fault Unit × Desk) : StepM Unit := do
  let s ← get
  let (r, d) := sleep s.context s.desk
  set { s with desk := d, inUse := true }
  match r with
  | .ok _ => return ()
  | .error f => throw f

/-- A pause of some seconds. -/
def sleep (seconds : Float) : StepM Unit :=
  pauseWith fun c d => c.sleep d (.real seconds)

/-- A pause of some milliseconds. -/
def sleepMillis (ms : Int) : StepM Unit :=
  pauseWith fun c d => c.sleepMillis d (.whole ms)

/-! ## The context -/

/-- A variable set. -/
def setVariable (name : String) (value : Scalar) : StepM Unit :=
  changeContext fun c => c.setVariable name value

/-- The value of a variable. -/
def value? (name : String) : StepM (Option Scalar) := do
  changeContext id
  return (← get).context.value? name

/-- A transfer of control requested. -/
def request (transfer : Transfer) (target : Int) : StepM Unit :=
  change fun s => { s with progress := { s.progress with control := some ⟨transfer, target⟩ } }

/-- The kind of the step at a position. -/
def kindAt (position : Int) (kinds : Option (List String)) : Except Fault String :=
  match kinds with
  | none => .error (.control .noEngine)
  | some kinds =>
    match if 1 ≤ position then kinds[position.toNat - 1]? else none with
    | some kind => .ok kind
    | none => .error (.control (.noSuchStep position kinds.length))

/-- The kind of the step at a position, which must be the expected one. -/
def expectKind (position : Int) (expected : Option String) (kinds : Option (List String)) :
    Except Fault String := do
  let kind ← kindAt position kinds
  match expected with
  | none => .ok kind
  | some e => if kind = e then .ok kind else .error (.control (.wrongKind position kind e))

/-- The step at a position looked up. -/
def lookUp (position : Int) (expected : Option String) : StepM String := do
  changeContext id
  match expectKind position expected (← get).kinds with
  | .ok kind => return kind
  | .error f => throw f

/-! ## Checking and executing -/

/-- The step is checked: invalid fields are logged as its error. -/
def validate (check : Except Fault Unit) : StepM Bool := do
  match check with
  | .ok _ => return true
  | .error (.invalid why) =>
    error why.message
    return false
  | .error f => throw f

/-- The step is executed: what it reports about itself is logged as its error, unless control is
lost. -/
def execute (body : StepM Unit) : StepM Bool := do
  change fun s => { s with progress := { s.progress with lastError := none, control := none } }
  try
    body
    return true
  catch f =>
    if f.isAction && !f.isControl then
      error f.message
      return false
    else throw f

end StepM

end Deskwork
