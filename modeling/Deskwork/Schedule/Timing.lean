/-
# Timing

When a task runs next: at its time of day, on its weekdays, or some minutes after its last run.
-/
import Deskwork.Schedule.Task

namespace Deskwork.Schedule

open Deskwork.Number Deskwork.Time

namespace Task

/-! ## The next run -/

/-- The next run of a task that runs every day: today when its time is still ahead, otherwise
tomorrow. -/
def nextDaily (t : Task) (now : Moment) : Except Time.Fault Moment := do
  let today := now.atTime t.time
  if ← now.before today then return today else today.addDays 1

/-- A moment lies on one of some weekdays. -/
def fallsOn (m : Moment) (days : List Weekday) : Bool :=
  days.any fun d => d.number == m.weekday

/-- The first moment after `now` that is some of the given numbers of days after `today` and lies on
one of the weekdays; without one it is a week after `today`. -/
def firstOn (days : List Weekday) (now today : Moment) : List Nat → Except Time.Fault Moment
  | [] => today.addDays 7
  | offset :: rest => do
    let candidate ← today.addDays offset
    if fallsOn candidate days then
      if ← now.before candidate then return candidate else firstOn days now today rest
    else firstOn days now today rest

/-- The next run of a task that runs on some weekdays: never, when there are none. -/
def nextWeekly (t : Task) (now : Moment) : Except Time.Fault Moment :=
  match t.days with
  | none | some [] => .ok .never
  | some days => firstOn days now (now.atTime t.time) (List.range 7)

/-- The next run of a task that runs some minutes after its last run: at once when it has not run
yet, and never when there are no minutes. -/
def nextInterval (t : Task) (now : Moment) : Except Time.Fault Moment :=
  match t.interval with
  | none => .ok .never
  | some n =>
    if n ≤ 0 then .ok .never
    else
      match t.lastRun with
      | none => .ok now
      | some last => do last.shift (← spanOfMinutes n)

/-- The next run of a task, seen from a moment; a task that is not enabled has none. -/
def nextRunAt (t : Task) (now : Moment) : Except Fault (Option Moment) :=
  if t.enabled then
    match t.rhythm with
    | .daily => ((t.nextDaily now).map some).mapError .time
    | .weekly => ((t.nextWeekly now).map some).mapError .time
    | .interval => ((t.nextInterval now).map some).mapError .time
  else .ok none

/-- The task with its next run, seen from a moment. -/
def planned (t : Task) (now : Moment) : Except Fault Task :=
  (t.nextRunAt now).map fun next => { t with nextRun := next }

/-- A task is due: it is enabled and its next run has come. -/
def isDue (t : Task) (now : Moment) : Except Fault Bool :=
  if t.enabled then
    match t.nextRun with
    | none => .ok false
    | some next => (next.notAfter now).mapError .time
  else .ok false

/-! ## Description -/

/-- Hours and minutes. -/
def hourText (t : TimeOfDay) : String :=
  padded 2 t.hour ++ ":" ++ padded 2 t.minute

/-- The text that describes when a task runs. -/
def describe (t : Task) : String :=
  match t.rhythm with
  | .daily => "Daily " ++ hourText t.time
  | .weekly =>
    match t.days with
    | none | some [] => "Weekly (no weekdays set)"
    | some days =>
      "Weekly " ++ ", ".intercalate ((Weekday.sorted days).map Weekday.short) ++ " "
        ++ hourText t.time
  | .interval => "Every " ++ (t.interval.map intText).getD "None" ++ " min"

end Task

end Deskwork.Schedule
