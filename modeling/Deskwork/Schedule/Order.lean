/-
# Orders

What a scheduler can be asked to do, what a run can be planned to do, and who runs scripts, sends
notifications and watches.
-/
import Deskwork.Schedule.Notifier

namespace Deskwork.Schedule

open Deskwork.Number Deskwork.Time

/-! ## Orders -/

/-- A task as it is handed in: its kept fields, and those that are not kept. -/
structure Form where
  /-- The kept fields, as data. -/
  kept : Value
  lastRun : Option Moment
  nextRun : Option Moment
  lastNotified : Option Moment

/-- The task that was handed in. -/
def Form.read (f : Form) (m : Machine) : Except Fault Task × Machine :=
  let (r, m) := Task.ofValue f.kept m
  (r.map fun t =>
    { t with lastRun := f.lastRun, nextRun := f.nextRun, lastNotified := f.lastNotified }, m)

/-- Something that a scheduler is asked to do. -/
inductive Order where
  | add (form : Form)
  | remove (id : String)
  /-- To put another task in the place of the one with its identifier. -/
  | update (form : Form)
  | get (id : String)
  | clearTasks
  | clearHistory
  | history
  | taskHistory (id : String)
  | tick (now : Option Moment)
  /-- To let the waiting workers run, all of them or the one at an index. -/
  | finish (index : Option Nat)
  | start
  | stop
  /-- To let the ticking thread take some turns. -/
  | loop (turns : Nat) (finishes : Bool)
  | execute (id : String)
  /-- To run a task that was not taken on. -/
  | executeLoose (form : Form)
  /-- To tell whether a run would be told about. -/
  | shouldNotify (id : String) (success : Bool) (now : Option Moment)
  | advance (seconds : Amount)
  | setClock (now : Moment)
  | save (path : String)
  | load (path : String)
  | files
  | count

/-- The word for an order. -/
def Order.word : Order → String
  | .add _ => "add"
  | .remove _ => "remove"
  | .update _ => "update"
  | .get _ => "get"
  | .clearTasks => "clear_tasks"
  | .clearHistory => "clear_history"
  | .history => "history"
  | .taskHistory _ => "task_history"
  | .tick _ => "tick"
  | .finish _ => "finish"
  | .start => "start"
  | .stop => "stop"
  | .loop _ _ => "loop"
  | .execute _ | .executeLoose _ => "execute"
  | .shouldNotify _ _ _ => "should_notify"
  | .advance _ => "advance"
  | .setClock _ => "now"
  | .save _ => "save"
  | .load _ => "load"
  | .files => "files"
  | .count => "snapshot_is_copy"

/-! ## Runs -/

/-- What a run says about itself: whether it succeeded, and what went wrong. -/
abbrev Verdict := Bool × Option String

/-- A planned run: time passes, orders are given, and the run ends. -/
structure Plan where
  seconds : Amount
  orders : List Order
  ending : Except Foreign Verdict

/-- A run that does nothing and succeeds. -/
def Plan.smooth : Plan := ⟨.whole 0, [], .ok (true, none)⟩

/-- Who runs the scripts of tasks. -/
inductive Runner where
  /-- Runs go as planned; the last plan repeats. -/
  | planned (plans : List Plan)
  | scripts

/-- Who sends notifications. -/
inductive Messenger where
  /-- Notifications go as planned; the last plan repeats. -/
  | planned (replies : List (Except Foreign Bool))
  | notifier (n : Notifier)

/-- Who is told about the runs of tasks. -/
inductive Watcher where
  | none
  | record
  /-- Someone who takes note and fails. -/
  | raise
  deriving DecidableEq, Repr

end Deskwork.Schedule
