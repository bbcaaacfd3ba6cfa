/-
# Execution

The run of a task from its beginning to its end: the record is opened, the script runs, the record
is closed and kept, the next run is planned, and those who want to know are told.
-/
import Deskwork.Engine
import Deskwork.Schedule.Scheduler

namespace Deskwork.Schedule

open Deskwork.Number Deskwork.Time

/-- How a script is run for a task: the run may change the scheduler in any way. -/
abbrev Run := Task → Scheduler → Except Fault Verdict × Scheduler

namespace Task

/-- The last notification about a task is too fresh for another one. -/
def isSilent (t : Task) (now : Moment) : Except Fault Bool :=
  match t.lastNotified with
  | none => .ok false
  | some last => do
    let elapsed ← (now.since last).mapError .time
    let span ← (spanOfMinutes t.notifyInterval).mapError .time
    return elapsed < span

/-- A run of the task with the given success is told about. -/
def wantsNotice (t : Task) (success : Bool) (now : Moment) : Except Fault Bool :=
  if t.notifies then do
    if ← t.isSilent now then return false else return t.policy.asks success
  else .ok false

end Task

namespace Scheduler

/-! ## The beginning -/

/-- The watcher told that a task was started. -/
def tellStarted (s : Scheduler) (t : Task) : Scheduler :=
  let told := s.record (.taskStarted t.id t.name)
  match s.watcher with
  | .none => s
  | .record => told
  | .raise => told.warn "task-started observer failed: observer bug"

/-- The run of a task begun: its record is opened. -/
def openRun (s : Scheduler) (t : Task) : Record × Scheduler :=
  let (id, m) := s.desk.machine.newId
  (Record.begin id t s.now,
    ((s.withMachine m).info ("Running task: " ++ t.name ++ " (" ++ t.scriptPath ++ ")")).tellStarted
      t)

/-! ## The end -/

/-- What is recorded of a failed run that says nothing. -/
def silentFailure : String := "Script execution failed"

/-- A failed run always has a reason, and a successful one has none. -/
def reason (v : Verdict) : Option String :=
  if v.1 then none else some ((Notifier.nonempty? v.2).getD silentFailure)

/-- The outcome of a run: success or not, and what went wrong. A fault is logged. -/
def judge (s : Scheduler) (t : Task) (r : Except Fault Verdict) : Verdict × Scheduler :=
  match r with
  | .ok v => ((v.1, reason v), s)
  | .error f =>
    ((false, some f.summary), s.error ("Task '" ++ t.name ++ "' raised: " ++ f.summary))

/-- The card on which a run is noted: that of the first listed task with the identifier, or else the
card of the run. -/
def liveCard (s : Scheduler) (id : String) (c : Card) : Card := (s.find? id).getD c

/-- A closed record kept, and the next run planned. The result is the card on which the run was
noted. -/
def settle (s : Scheduler) (c : Card) (r : Record) : Except Fault Card × Scheduler :=
  let s := { s with history := s.history.append r }
  let live := s.liveCard r.taskId c
  let s := s.modify live fun t => { t with lastRun := some r.start }
  let (result, s) := s.plan live s.now
  (result.map fun _ => live, s)

/-- The watcher told that a task has ended. -/
def tellEnded (s : Scheduler) (t : Task) (r : Record) : Scheduler :=
  let told := s.record (.taskEnded t.id t.name r.id r.success)
  match s.watcher with
  | .none => s
  | .record => told
  | .raise => told.warn "task-completed observer failed: observer bug"

/-- The entry about the end of a run. -/
def logEnd (s : Scheduler) (t : Task) (r : Record) (duration : String) : Scheduler :=
  let message := "Task finished: " ++ t.name ++ " - " ++ r.status ++ " (" ++ duration ++ ")"
  if r.success then s.info message else s.error message

/-! ## Notifications -/

/-- A notification sent as planned, where the last plan repeats. -/
def sendPlanned (s : Scheduler) (replies : List (Except Foreign Bool)) (t : Task) (r : Record) :
    Except Fault Bool × Scheduler :=
  let s := s.record (.notified t.id r.success r.error)
  match replies with
  | [] => (.ok true, s)
  | [reply] => (reply.mapError Fault.ofForeign, s)
  | reply :: rest => (reply.mapError Fault.ofForeign, { s with messenger := .planned rest })

/-- A notification sent: whether it was delivered. -/
def send (s : Scheduler) (t : Task) (r : Record) : Except Fault Bool × Scheduler :=
  match s.messenger with
  | .planned replies => s.sendPlanned replies t r
  | .notifier n =>
    let (result, desk) := n.send t r s.desk
    (result, { s with desk := desk })

/-- A wanted notification sent; its delivery is noted on the card. -/
def deliver (s : Scheduler) (c : Card) (t : Task) (r : Record) : Scheduler :=
  let now := s.now
  match s.send t r with
  | (.ok true, s) => s.modify c fun t => { t with lastNotified := some now }
  | (.ok false, s) => s
  | (.error f, s) => s.error ("Notification for '" ++ t.name ++ "' raised: " ++ f.message)

/-- A notification about a run sent, when the task wants one. -/
def notify (s : Scheduler) (c : Card) (t : Task) (r : Record) : Except Fault Unit × Scheduler :=
  match t.wantsNotice r.success s.now with
  | .error f => (.error f, s)
  | .ok false => (.ok (), s)
  | .ok true => (.ok (), s.deliver c t r)

/-- The end of a run announced: in the log, to the watcher, and by a notification about the task on
the card on which the run was noted. -/
def announce (s : Scheduler) (live : Card) (t : Task) (r : Record) :
    Except Fault Record × Scheduler :=
  match r.duration with
  | .error f => (.error f, s)
  | .ok duration =>
    let s := s.logEnd t r duration
    let noted := (s.task? live).getD t
    let (result, s) := (s.tellEnded noted r).notify live noted r
    (result.map fun _ => r, s)

/-- The run of a task ended: its record is closed and kept, and its end announced. -/
def closeRun (s : Scheduler) (c : Card) (t : Task) (r : Record) (result : Except Fault Verdict) :
    Except Fault Record × Scheduler :=
  let (verdict, s) := s.judge t result
  let r := r.closed verdict.1 verdict.2 s.now
  match s.settle c r with
  | (.error f, s) => (.error f, s)
  | (.ok live, s) => s.announce live t r

/-! ## The whole run -/

/-- The task on a card run from the beginning to the end. -/
def execute (run : Run) (s : Scheduler) (c : Card) (t : Task) : Except Fault Record × Scheduler :=
  let (r, s) := s.openRun t
  let (result, s) := run t s
  s.closeRun c t r result

/-- A worker is done with a task. -/
def release (s : Scheduler) (id : String) : Scheduler :=
  { s with inFlight := s.inFlight.erase id }

/-- A worker runs the task on a card; a fault of the run is logged. -/
def work (run : Run) (s : Scheduler) (c : Card) : Scheduler :=
  match s.task? c with
  | none => s
  | some t =>
    match s.execute run c t with
    | (.ok _, s) => s.release t.id
    | (.error f, s) =>
      (s.error ("Task '" ++ t.name ++ "' crashed the worker: " ++ f.message)).release t.id

/-! ## Waiting workers -/

/-- How many workers are let run one after the other at most. -/
def workerLimit : Nat := 10000

/-- The waiting workers let run in turn until none is left. -/
def drain (run : Run) : Nat → Scheduler → Scheduler
  | 0, s => s
  | limit + 1, s =>
    match s.waiting with
    | [] => s
    | c :: rest => drain run limit ({ s with waiting := rest }.work run c)

/-- All waiting workers let run. -/
def finishAll (run : Run) (s : Scheduler) : Scheduler := drain run workerLimit s

/-- The waiting worker at an index let run; the result tells whether there is one. -/
def finishAt (run : Run) (s : Scheduler) (index : Nat) : Bool × Scheduler :=
  match s.waiting[index]? with
  | none => (false, s)
  | some c => (true, { s with waiting := s.waiting.eraseIdx index }.work run c)

/-! ## The ticking thread -/

/-- One look at the tasks; a fault is logged. -/
def look (s : Scheduler) : Scheduler :=
  match s.tick s.now with
  | (.ok _, s) => s
  | (.error f, s) => s.error ("Tick failed: " ++ f.message)

/-- The pause after a look, during which the waiting workers may run. -/
def pause (run : Run) (finishes : Bool) (s : Scheduler) : Except Fault Unit × Scheduler :=
  let s := s.record (.waited s.interval)
  let s := if finishes then s.finishAll run else s
  s.advance s.interval

/-- The ticking thread takes some turns; the result tells whether it is still alive. -/
def turns (run : Run) (finishes : Bool) : Nat → Scheduler → Except Fault Bool × Scheduler
  | 0, s => if s.stopping then (.ok false, { s with ticker := .ended }) else (.ok true, s)
  | n + 1, s =>
    if s.stopping then (.ok false, { s with ticker := .ended })
    else
      match s.look.pause run finishes with
      | (.error f, s) => (.error f, s)
      | (.ok _, s) =>
        if n = 0 then (.ok true, s) else turns run finishes n s

end Scheduler

end Deskwork.Schedule
