/-
# The Engine

The engine carries out the steps of a script one after the other in one context. After a step that
succeeded it follows the transfer of control that the step requested; a step that fails stops the
run unless the step allows to go on. The number of steps of a run is limited.
-/
import Deskwork.Script

namespace Deskwork

open Deskwork.Number

/-! ## Engines -/

/-- Who is told about the steps and the end of a run. -/
inductive Observer where
  | none
  | record
  /-- Someone who takes note and fails. -/
  | raise
  /-- Someone who takes note and tries to run the engine again after every step. -/
  | reenter
  /-- Someone who prints the end of the run. -/
  | report
  deriving DecidableEq, Repr

/-- An engine: a script of steps, how many of them a run may take, and who is told about them. -/
structure Engine where
  desk : Desk
  context : Context
  slots : List Slot
  scriptName : String
  maxSteps : Int
  running : Bool
  /-- The index of the current step, and -1 outside of runs. -/
  current : Int
  /-- The first error of the last run. -/
  firstError : Option String
  observer : Observer

/-- How the steps of a run came to an end. -/
inductive Ending where
  | finished (success : Bool)
  /-- Control was lost between two steps. -/
  | lost (why : Fault)
  /-- A fault that nobody expects broke the run off. -/
  | broken (why : Fault)

namespace Engine

/-- How many steps a run may take when nothing else is said. -/
def standardMaxSteps : Int := 100000

/-- An engine without a run. -/
def new (desk : Desk) (slots : List Slot) (hooked : Bool) (maxSteps : Int) (observer : Observer) :
    Engine :=
  ⟨desk, .empty hooked, slots, unnamedScript, maxSteps, false, -1, none, observer⟩

/-- An informational entry of the engine. -/
def info (e : Engine) (message : String) : Engine :=
  { e with desk := e.desk.info engineSource message }

/-- A warning of the engine. -/
def warn (e : Engine) (message : String) : Engine :=
  { e with desk := e.desk.warn engineSource message }

/-- An error entry of the engine. -/
def error (e : Engine) (message : String) : Engine :=
  { e with desk := e.desk.error engineSource message }

/-- An event. -/
def record (e : Engine) (event : Event) : Engine :=
  { e with desk := e.desk.record event }

/-! ## Slots -/

/-- The engine with the slot at an index changed. -/
def modifySlot (e : Engine) (index : Nat) (f : Slot → Slot) : Engine :=
  { e with slots := e.slots.modify index f }

/-- The slot with another last error. -/
def withError (message : Option String) (s : Slot) : Slot :=
  { s with progress := { s.progress with lastError := message } }

/-- The last error of the slot at an index. -/
def lastError (e : Engine) (index : Nat) : Option String :=
  (e.slots[index]?).bind fun s => s.progress.lastError

/-- The slots with the one at a position disabled. -/
def disableAt (slots : List Slot) (position : Int) : List Slot :=
  slots.modify (position.toNat - 1) fun s => { s with enabled := false }

/-! ## Observers -/

/-- An attempt to run the engine while it is running is refused. -/
def refuse (e : Engine) : Engine :=
  e.warn "A script is already running on this engine"

/-- The event of a step that was executed. -/
def executedEvent (e : Engine) (index : Nat) (s : Slot) (ok : Bool) : Event :=
  .executed index s.work.tag ok (e.lastError index) e.context.bindings
    (if s.work.isLoopEnd then (e.slots[index]?).map fun s => s.progress.iteration else none)

/-- The observer told that a step was executed. -/
def notifyStep (e : Engine) (index : Nat) (s : Slot) (ok : Bool) : Engine :=
  let told := e.record (e.executedEvent index s ok)
  match e.observer with
  | .none | .report => e
  | .record => told
  | .raise => told.warn "action observer failed: observer bug"
  | .reenter => told.refuse.record (.rerun false)

/-- Texts in order. -/
def sorted (texts : List String) : List String :=
  texts.mergeSort fun a b => !(b < a)

/-- The line printed at the end of a run. -/
def reportLine (ok : Bool) (firstError : Option String) : String :=
  if ok then "DONE: True" else "DONE: False - " ++ firstError.getD "None"

/-- The observer told of the end of a run. -/
def notifyEnd (e : Engine) (ok : Bool) : Engine :=
  let told := e.record (.completed ok e.current (sorted (Table.keys e.context.resources)))
  match e.observer with
  | .none => e
  | .record | .reenter => told
  | .raise => told.warn "completion observer failed: completion bug"
  | .report => e.record (.printed (reportLine ok e.firstError))

/-! ## Preparation -/

/-- The slots made ready one after the other, the first of them for the position after `place`:
nothing is left of an earlier run. -/
def resetSlots (place : Nat) (d : Desk) : List Slot → List Slot × Desk
  | [] => ([], d)
  | s :: rest =>
    let s := { s with
      progress := { s.progress with place := place + 1, lastError := none, control := none } }
    let (s, d) := s.resetState d
    let (rest, d) := resetSlots (place + 1) d rest
    (s :: rest, d)

/-- A position lies outside of a script. -/
def outside (total : Nat) (target : Int) : Bool :=
  target < 1 || (total : Int) < target

/-- The first enabled slot, from the one at `index` on, that refers to a position outside of the
script: its index, the slot and the position. -/
def badReference (total : Nat) : Nat → List Slot → Option (Nat × Slot × Int)
  | _, [] => none
  | index, s :: rest =>
    match if s.enabled then s.work.references.find? (outside total) else none with
    | some target => some (index, s, target)
    | none => badReference total (index + 1) rest

/-- The engine made ready for a run, and why it cannot be run, if so. -/
def prepare (e : Engine) : Option Fault × Engine :=
  let total := e.slots.length
  let (slots, d) := resetSlots 0 e.desk e.slots
  let e := { e with slots := slots, desk := d }
  match badReference total 0 slots with
  | none => (none, e)
  | some (index, s, target) =>
    (some (.control (.badReference (index + 1 : Nat) s.name target total)),
      e.modifySlot index (withError (some (missingStepText target total))))

/-! ## One step -/

/-- A summary of the failure of a step. -/
def summary (e : Engine) (index : Nat) (s : Slot) : String :=
  let message := (e.lastError index).getD ""
  "#" ++ toString (index + 1) ++ " " ++ s.name ++ ": "
    ++ (if message.isEmpty then "failed" else message)

/-- The failure of a step kept when it is the first one of the run. -/
def recordFailure (e : Engine) (index : Nat) (s : Slot) : Engine :=
  if e.firstError.isNone then { e with firstError := some (e.summary index s) } else e

/-- A step attempted: a fault that it does not report about itself is its error, unless control is
lost. -/
def guarded (work : Work) : StepM Bool := do
  try StepM.attempt work
  catch f =>
    if f.isControl then throw f
    else
      StepM.error ("Unexpected error: " ++ f.message)
      return false

/-- The engine after a session of the step at an index. -/
def absorb (e : Engine) (index : Nat) (s : Session) : Engine :=
  let progress := { s.progress with visits := s.progress.visits + 1 }
  { e with
    desk := s.desk
    context := s.context
    slots := s.disabled.foldl disableAt
      (e.slots.modify index fun slot => { slot with progress := progress }) }

/-- The step at an index carried out. Its templates are expanded in place, and what stood in the
fields that changed is written back to them, however the step ended. -/
def executeOne (e : Engine) (index : Nat) (s : Slot) : Except Fault Bool × Engine :=
  let e := e.info ("[" ++ toString (index + 1) ++ "/" ++ toString e.slots.length ++ "] " ++ s.name)
  let (r, work, d) := s.work.expand e.context.bindings e.desk
  let e := { e with desk := d }.modifySlot index fun s => { s with work := work }
  match r with
  | .error f => (.error f, e)
  | .ok originals =>
    let session := s.session work e.desk e.context (some (e.slots.map fun s => s.work.tag))
      e.running (index + 1 : Nat)
    let (r, session) := StepM.runIn session (guarded work)
    (r, (e.absorb index session).modifySlot index fun s =>
      { s with work := s.work.restore originals })

/-! ## The run -/

/-- Where the run goes after a step. -/
inductive Next where
  | goto (index : Nat) (success : Bool)
  | stop (ending : Ending)

/-- The transfer that a step requested, followed. -/
def follow (e : Engine) (index : Nat) (s : Slot) (success : Bool) : Next × Engine :=
  match (e.slots[index]?).bind fun s => s.progress.control with
  | none => (.goto (index + 1) success, e)
  | some signal =>
    match signal.transfer with
    | .next => (.goto (index + 1) success, e)
    | .skipNext => (.goto (index + 2) success, e)
    | .jump | .loopBack =>
      if outside e.slots.length signal.target then
        (.stop (.lost (.control (.badTarget (index + 1 : Nat) s.name signal.target))), e)
      else (.goto (signal.target.toNat - 1) success, e)
    | .exit =>
      (.stop (.finished success), e.info ("Script exited by step #" ++ toString (index + 1)))

/-- Control was lost at the step at an index: the run ends. -/
def loseControl (e : Engine) (index : Nat) (s : Slot) (why : Fault) : Engine :=
  let e := e.modifySlot index (withError (some why.message))
  ((e.recordFailure index s).notifyStep index s false).error
    ("Control error at #" ++ toString (index + 1) ++ ": " ++ why.message)

/-- The outcome of the step at an index: who watches is told, and the run goes on or ends. -/
def settle (e : Engine) (index : Nat) (s : Slot) (success : Bool) (r : Except Fault Bool) :
    Next × Engine :=
  match r with
  | .error f =>
    if f.isControl then (.stop (.finished false), e.loseControl index s f)
    else (.stop (.broken f), e)
  | .ok true => (e.notifyStep index s true).follow index s success
  | .ok false =>
    let e := (e.notifyStep index s false).recordFailure index s
    if s.continueOnError then (.goto (index + 1) false, e)
    else (.stop (.finished false), e.error "Stopping script because of an error")

/-- Disabled steps passed over, from the one at `index` on. The result is the next enabled step. -/
def passDisabled (e : Engine) (total index : Nat) : List Slot → Option (Nat × Slot) × Engine
  | [] => (none, e)
  | s :: rest =>
    let e := { e with current := index }
    if s.enabled then (some (index, s), e)
    else
      passDisabled
        { e with
          desk := e.desk.debug engineSource
            ("[" ++ toString (index + 1) ++ "/" ++ toString total ++ "] " ++ s.name
              ++ " (disabled)") }
        total (index + 1) rest

/-- The steps from the one at `index` on carried out, at most `budget` of them. -/
def steps : (budget index : Nat) → (success : Bool) → Engine → Ending × Engine
  | budget, index, success, e =>
    match e.passDisabled e.slots.length index (e.slots.drop index) with
    | (none, e) => (.finished success, e)
    | (some (index, s), e) =>
      match budget with
      | 0 => (.finished false, e.loseControl index s (.control (.stepLimit e.maxSteps)))
      | budget + 1 =>
        let (r, e) := e.executeOne index s
        match e.settle index s success r with
        | (.stop ending, e) => (ending, e)
        | (.goto index success, e) => steps budget index success e

/-- Control was lost outside of a step: the run fails. -/
def fail (e : Engine) (why : Fault) : Bool × Engine :=
  let e := e.error why.message
  (false, if e.firstError.isNone then { e with firstError := some why.message } else e)

/-- The end of a run announced. -/
def announce (e : Engine) (success : Bool) : Engine :=
  (e.info ("=== Script " ++ (if success then "succeeded" else "failed") ++ " ===")).notifyEnd
    success

/-- The steps carried out after the engine was made ready. -/
def carryOut (e : Engine) : Except Fault Bool × Engine :=
  let (problem, e) := e.prepare
  let (ending, e) := match problem with
    | some why => (Ending.lost why, e)
    | none => steps e.maxSteps.toNat 0 true e
  match ending with
  | .finished success => (.ok success, e.announce success)
  | .lost why =>
    let (success, e) := e.fail why
    (.ok success, e.announce success)
  | .broken why => (.error why, e)

/-- The context cleared. -/
def clearContext (e : Engine) : Engine :=
  let (c, d) := e.context.clear e.desk
  { e with context := c, desk := d }

/-- A run from its beginning to its end. -/
def runOnce (e : Engine) : Except Fault Bool × Engine :=
  let e := { e with firstError := none }.clearContext
  match e.desk.log.ready with
  | .error f => (.error f, e)
  | .ok _ =>
    (e.info ("=== Script started (" ++ toString e.slots.length ++ " action(s)) ===")).carryOut

/-- The engine after a run: nothing is left in its context. -/
def finish (e : Engine) : Engine :=
  { e.clearContext with current := -1, running := false }

/-- The steps run once, or other steps in their place: whether the run succeeded. An engine that is
running refuses. -/
def run (e : Engine) (slots : Option (List Slot)) : Except Fault Bool × Engine :=
  if e.running then (e.desk.log.ready.map fun _ => false, e.refuse)
  else
    let (r, e) := { e with running := true, slots := slots.getD e.slots }.runOnce
    (r, e.finish)

/-! ## The script of an engine -/

/-- The engine with another step at the end. -/
def add (e : Engine) (s : Slot) : Engine := { e with slots := e.slots ++ [s] }

/-- The engine without steps. -/
def clear (e : Engine) : Engine := { e with slots := [], current := -1 }

/-- The engine with the steps of a script. -/
def take (e : Engine) (s : Script) : Engine :=
  { e with slots := s.steps.map Slot.ofStep, scriptName := s.name }.info
    ("Loaded script '" ++ s.name ++ "': " ++ toString s.steps.length ++ " action(s)")

/-- The script in a file loaded into the engine. -/
def load (e : Engine) (p : Files.Path) : Except Fault Script × Engine :=
  match Script.load e.desk.machine.files p with
  | .error f => (.error f, e)
  | .ok s => (e.desk.log.ready.map fun _ => s, e.take s)

/-- The steps of the engine as a script in a file. -/
def save (e : Engine) (p : Files.Path) : Except Fault Unit × Engine :=
  let (r, files) := Files.saveValue e.desk.machine.files p
    (scriptValue e.scriptName (e.slots.map Slot.toValue))
  (r.mapError .file,
    { e with desk := { e.desk with machine := { e.desk.machine with files := files } } })

end Engine

end Deskwork
