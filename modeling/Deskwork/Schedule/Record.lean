/-
# Records

The record of one run of a task: what ran, from when to when, and with which outcome. A record is
closed once.
-/
import Deskwork.Schedule.Task

namespace Deskwork.Schedule

open Deskwork.Number Deskwork.Time

/-- The record of a run. -/
structure Record where
  id : String
  taskId : String
  taskName : String
  scriptPath : String
  start : Moment
  finish : Option Moment
  success : Bool
  error : Option String
  deriving DecidableEq

namespace Record

/-- An open record of a task. -/
def begin (id : String) (t : Task) (now : Moment) : Record :=
  ⟨id, t.id, t.name, t.scriptPath, now, none, false, none⟩

/-- The record closed. -/
def closed (r : Record) (success : Bool) (error : Option String) (now : Moment) : Record :=
  { r with success := success, error := error, finish := some now }

/-- An open record closed; a closed one cannot be closed again. -/
def close (r : Record) (success : Bool) (error : Option String) (now : Moment) :
    Except Fault Record :=
  if r.finish.isSome then .error (.recordClosed r.id) else .ok (r.closed success error now)

/-! ## Duration -/

/-- The seconds from the beginning of the run to its end, when it has ended. -/
def seconds (r : Record) : Except Fault (Option Float) :=
  match r.finish with
  | none => .ok none
  | some finish => ((finish.since r.start).mapError .time).map fun d => some (secondsOfMicros d)

/-- The milliseconds of the run; an open record has none. -/
def milliseconds (r : Record) : Except Fault Int := do
  match ← r.seconds with
  | none => return 0
  | some s => (truncate? (s * 1000.0)).mapError .conversion

/-- Some seconds in words: in seconds, minutes or hours. -/
def spanText (seconds : Float) : String :=
  if seconds < 60.0 then onePlaceText seconds ++ "s"
  else if seconds < 3600.0 then onePlaceText (seconds / 60.0) ++ "min"
  else onePlaceText (seconds / 3600.0) ++ "h"

/-- The duration of the run in words. -/
def duration (r : Record) : Except Fault String :=
  r.seconds.map fun s => (s.map spanText).getD "running..."

/-! ## Outcome -/

/-- The sign of the outcome. -/
def icon (r : Record) : String :=
  if r.success then "✓" else "✗"

/-- The word for the outcome. -/
def status (r : Record) : String :=
  if r.success then "Success" else "Failed"

/-- A record as data. -/
def toValue (r : Record) : Except Fault Value := do
  let ms ← r.milliseconds
  let duration ← r.duration
  return .object [("id", .text r.id), ("task_id", .text r.taskId), ("task_name", .text r.taskName),
    ("script_path", .text r.scriptPath), ("start", .text r.start.iso),
    ("end", Task.momentValue r.finish), ("success", .bool r.success),
    ("error_message", (r.error.map Value.text).getD .null), ("finished", .bool r.finish.isSome),
    ("ms", .int ms), ("duration", .text duration), ("icon", .text r.icon),
    ("status", .text r.status)]

end Record

end Deskwork.Schedule
