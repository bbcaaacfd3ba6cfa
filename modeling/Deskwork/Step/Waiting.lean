/-
# Waiting

Waiting for some time, or until a window appears. A window is looked for every half second until the
deadline.
-/
import Deskwork.Data.Convert
import Deskwork.Machine.Windows
import Deskwork.Step.Session

namespace Deskwork

open Deskwork.Number

/-! ## Fields -/

/-- What is waited for. -/
inductive WaitMode where
  | fixedTime
  | windowExists
  deriving DecidableEq, Repr

namespace WaitMode

/-- The word for a mode. -/
def word : WaitMode → String
  | .fixedTime => "fixed_time"
  | .windowExists => "window_exists"

/-- The modes in data. -/
def choice : Choice WaitMode :=
  ⟨"WaitType", [.fixedTime, .windowExists], fun m => .text m.word⟩

end WaitMode

/-- A pause of the script. -/
structure Waiting where
  mode : WaitMode
  millis : Int
  /-- What the title of the window holds. -/
  title : String
  /-- How many seconds a window is waited for. -/
  timeout : Int
  deriving DecidableEq, Repr

namespace Waiting

/-- A pause from the fields of its data. -/
def ofFields (fs : List (String × Value)) : Except Fault Waiting := do
  let mode ← Convert.field fs "wait_type" (Convert.choice WaitMode.choice) .fixedTime
  let millis ← Convert.field fs "milliseconds" Convert.int 1000
  let title ← Convert.field fs "window_title" Convert.text ""
  let timeout ← Convert.field fs "timeout_seconds" Convert.int 30
  return ⟨mode, millis, title, timeout⟩

/-- The fields of a pause as data. -/
def fields (w : Waiting) : List (String × Value) :=
  [("wait_type", .text w.mode.word), ("milliseconds", .int w.millis),
    ("window_title", .text w.title), ("timeout_seconds", .int w.timeout)]

/-- The name of a pause. -/
def name (w : Waiting) : String :=
  if w.mode = .windowExists then "Wait for window" else "Wait"

/-- The text that describes a pause. -/
def describe (w : Waiting) : String :=
  match w.mode with
  | .windowExists => "Wait for window \"" ++ w.title ++ "\" (" ++ intText w.timeout ++ "s)"
  | .fixedTime => "Wait " ++ intText w.millis ++ " ms"

/-- The time is positive, or there is a title. -/
def check (w : Waiting) : Except Fault Unit :=
  match w.mode with
  | .fixedTime => if w.millis ≤ 0 then .error (.invalid .noWait) else .ok ()
  | .windowExists => if w.title.isEmpty then .error (.invalid .noWindowTitle) else .ok ()

/-- A template field overwritten. -/
def write (name : String) (c : Template.Content) (w : Waiting) : Waiting :=
  if name = "window_title" then { w with title := c.textOr w.title } else w

/-! ## Running -/

/-- The first listed window whose title holds a text; windows can be handled on one platform
only. -/
def findWindow (title : String) : StepM (Option Window) := do
  let machine := (← get).desk.machine
  if machine.hasWindows then return machine.windowTitled title
  else throw (.failed .noWindows)

/-- A window looked for every half second, at most `turns` times and before the deadline. -/
def watch (title : String) (deadline : Float) : Nat → StepM Unit
  | 0 => throw (.failed (.windowTimeout title))
  | turns + 1 => do
    if (← get).desk.machine.running < deadline then
      match ← findWindow title with
      | some _ => StepM.info ("Window found: " ++ title)
      | none =>
        StepM.sleep 0.5
        watch title deadline turns
    else throw (.failed (.windowTimeout title))

/-- How many looks, half a second apart, fit before a deadline. -/
def turnsFor (timeout : Int) : Nat := 2 * timeout.toNat + 2

/-- The pause sat out. -/
def run (w : Waiting) : StepM Unit := do
  match w.mode with
  | .fixedTime =>
    StepM.info ("Waiting " ++ intText w.millis ++ " ms")
    StepM.sleepMillis w.millis
  | .windowExists =>
    StepM.info ("Waiting for window \"" ++ w.title ++ "\"")
    match ofInt? w.timeout with
    | .error f => throw (.conversion f)
    | .ok span =>
      watch w.title ((← get).desk.machine.running + span) (turnsFor w.timeout)

end Waiting

end Deskwork
