/-
# The Notifier

Messages about runs, sent to the address of the task or else to a common one.
-/
import Deskwork.Desk
import Deskwork.Json.Printer
import Deskwork.Machine.Network
import Deskwork.Schedule.Record
import Deskwork.Text.Blank

namespace Deskwork.Schedule

open Deskwork.Number Deskwork.Text Deskwork.Time

/-- A notifier. -/
structure Notifier where
  /-- Where messages go when the task does not say. -/
  defaultUrl : Option String
  /-- How many seconds an answer may take. -/
  timeout : Amount
  deriving DecidableEq

namespace Notifier

/-- The source of the entries of the notifier. -/
def source : String := "Notifier"

/-- A notifier with the standard time for an answer. -/
def standard (defaultUrl : Option String) : Notifier := ⟨defaultUrl, .real 10.0⟩

/-! ## The message -/

/-- The name under which a script is known: that of its folder, or else its own without the last
ending. -/
def displayName (scriptPath : String) : String :=
  let p := Files.Path.ofString scriptPath
  if p.parent.name ≠ "" then p.parent.name
  else if p.stem ≠ "" then p.stem
  else "unknown"

/-- The duration of a run in seconds. -/
def durationText (r : Record) : Except Fault String :=
  r.seconds.map fun s => (s.map fun s => onePlaceText s ++ "s").getD "unknown"

/-- The line about what went wrong, when something did. -/
def errorLines (r : Record) : List String :=
  match r.error with
  | some e => if !r.success && !allBlank e then ["Error: " ++ e] else []
  | none => []

/-- The lines of the message about a run. -/
def lines (t : Task) (r : Record) (duration : String) : List String :=
  [(if r.success then "✅" else "❌") ++ " Scheduled run "
      ++ (if r.success then "succeeded" else "failed"),
    "Task: " ++ t.name,
    "Script: " ++ displayName t.scriptPath,
    "Started: " ++ r.start.shortDate "/" ++ " " ++ r.start.clock ":",
    "Duration: " ++ duration,
    "Result: " ++ r.status] ++ errorLines r

/-- The message about a run. -/
def message (t : Task) (r : Record) : Except Fault String :=
  (durationText r).map fun duration => "\n".intercalate (lines t r duration)

/-! ## Sending -/

/-- A text that is there and not empty. -/
def nonempty? (s : Option String) : Option String :=
  s.filter fun s => !s.isEmpty

/-- Where the message about a task goes. -/
def urlFor (n : Notifier) (t : Task) : Option String :=
  (nonempty? t.webhookUrl).or (nonempty? n.defaultUrl)

/-- The contents of a message. -/
def body (message : String) : String :=
  Json.line (.object [("text", .text message)])

/-- The answer to a message: whether it was delivered. -/
def judge (t : Task) (reply : Except Unanswered WebResponse) (d : Desk) : Except Fault Bool × Desk :=
  match reply with
  | .error u =>
    if u.isTransport then
      (.ok false, d.error source ("Notification for '" ++ t.name ++ "' failed: " ++ u.why.message))
    else (.error (.ofForeign u.why), d)
  | .ok r =>
    if r.isSuccess then (.ok true, d.info source ("Notification sent: " ++ t.name))
    else
      (.ok false, d.warn source
        ("Notification for '" ++ t.name ++ "' failed (HTTP " ++ intText r.status ++ ")"))

/-- A message about a run sent: whether it was delivered. -/
def send (n : Notifier) (t : Task) (r : Record) (d : Desk) : Except Fault Bool × Desk :=
  match n.urlFor t with
  | none =>
    (.ok false, d.warn source ("No webhook URL configured for task '" ++ t.name ++ "'"))
  | some url =>
    match message t r with
    | .error f => (.error f, d)
    | .ok text =>
      let (reply, machine) := d.machine.post url (body text) n.timeout
      judge t reply { d with machine := machine }

end Notifier

end Deskwork.Schedule
