/-
# Tasks

A task says which script is run, when, and who is told about it. The fields that are kept in files
are read from and written as data; the last and the next run and the last notification are not.
-/
import Deskwork.Machine.Basic
import Deskwork.Schedule.Weekday
import Deskwork.Settings
import Deskwork.Time.Iso

namespace Deskwork.Schedule

open Deskwork.Text Deskwork.Time

/-! ## When and for whom -/

/-- How often a task runs. -/
inductive Rhythm where
  | daily
  | weekly
  /-- Again some minutes after its last run. -/
  | interval
  deriving DecidableEq, Repr

/-- The word for a rhythm. -/
def Rhythm.word : Rhythm → String
  | .daily => "daily"
  | .weekly => "weekly"
  | .interval => "interval"

/-- The rhythms in data. -/
def Rhythm.choice : Choice Rhythm :=
  ⟨"ScheduleType", [.daily, .weekly, .interval], fun r => .text r.word⟩

/-- Which runs are told about. -/
inductive Policy where
  | onError
  | onSuccess
  | always
  deriving DecidableEq, Repr

/-- The word for a policy. -/
def Policy.word : Policy → String
  | .onError => "on_error"
  | .onSuccess => "on_success"
  | .always => "always"

/-- The policies in data. -/
def Policy.choice : Choice Policy :=
  ⟨"NotificationPolicy", [.onError, .onSuccess, .always], fun p => .text p.word⟩

/-- A policy asks to tell about a run with the given success. -/
def Policy.asks (p : Policy) (success : Bool) : Bool :=
  match p with
  | .onError => !success
  | .onSuccess => success
  | .always => true

/-! ## Tasks -/

/-- A task. -/
structure Task where
  id : String
  name : String
  scriptPath : String
  enabled : Bool
  rhythm : Rhythm
  time : TimeOfDay
  days : Option (List Weekday)
  /-- The minutes from one run to the next. -/
  interval : Option Int
  created : Moment
  notifies : Bool
  policy : Policy
  /-- The minutes that lie at least between two notifications. -/
  notifyInterval : Int
  webhookUrl : Option String
  lastRun : Option Moment
  nextRun : Option Moment
  lastNotified : Option Moment
  deriving DecidableEq

namespace Task

/-! ## Reading -/

/-- The weekday that a value names. -/
def readDay (v : Value) : Except Fault Weekday :=
  let name := upper v.asText
  match Weekday.ofName? name with
  | some d => .ok d
  | none => .error (.unsuitable (.noMemberNamed name))

/-- The weekdays in a field; what is no list counts as absent. -/
def readDays (fields : List (String × Value)) : Except Fault (Option (List Weekday)) :=
  match Value.field? fields "days_of_week" with
  | some (.list items) => (items.mapM readDay).map some
  | _ => .ok none

/-- The identifier in a field; a task without one is given a new one. -/
def readId (fields : List (String × Value)) (m : Machine) : String × Machine :=
  match Settings.filled? fields "id" with
  | some v => (v.asText, m)
  | none => m.newId

/-- The text of a field. -/
def textField (fields : List (String × Value)) (name other : String) : String :=
  (Value.fieldOr fields name (.text other)).asText

/-- The truth value of a field. -/
def flagField (fields : List (String × Value)) (name : String) (other : Bool) : Bool :=
  (Value.fieldOr fields name (.bool other)).isTrue

/-- The minutes in a field that may be absent. -/
def readInterval (fields : List (String × Value)) : Except Fault (Option Int) :=
  match Value.field? fields "interval_minutes" with
  | none | some (.scalar .null) => .ok none
  | some v => (Convert.wholeOf v).map some

/-- The moment at which a task was made; when it is not known, the present moment. -/
def readCreated (fields : List (String × Value)) (now : Moment) : Except Fault Moment :=
  match Settings.filled? fields "created_at" with
  | none => .ok now
  | some (.scalar (.text s)) => (readMoment s).mapError .time
  | some _ => .error (.time .notText)

/-- The minutes between two notifications when nothing else is said. -/
def standardNotifyInterval : Int := 5

/-- The task of an object, given its weekdays and its identifier. -/
def readRest (fields : List (String × Value)) (days : Option (List Weekday)) (id : String)
    (now : Moment) : Except Fault Task := do
  let rhythm ← Convert.choice Rhythm.choice (.text (textField fields "schedule_type" "daily"))
  let time ← (readTime (textField fields "execution_time" "00:00:00")).mapError .time
  let interval ← readInterval fields
  let created ← readCreated fields now
  let policy ← Convert.choice Policy.choice (.text (textField fields "notify_policy" "on_error"))
  let notifyInterval ← Convert.field fields "notify_interval_minutes" Convert.int
    standardNotifyInterval
  return {
    id := id
    name := textField fields "name" ""
    scriptPath := textField fields "script_path" ""
    enabled := flagField fields "enabled" true
    rhythm := rhythm
    time := time
    days := days
    interval := interval
    created := created
    notifies := flagField fields "notify_on_completion" false
    policy := policy
    notifyInterval := notifyInterval
    webhookUrl := Settings.readUrl fields "notify_webhook_url"
    lastRun := none
    nextRun := none
    lastNotified := none }

/-- The task of an object. -/
def ofFields (fields : List (String × Value)) (m : Machine) : Except Fault Task × Machine :=
  match readDays fields with
  | .error f => (.error f, m)
  | .ok days =>
    let (id, m) := readId fields m
    (readRest fields days id m.wall, m)

/-- The task in a value. -/
def ofValue (v : Value) (m : Machine) : Except Fault Task × Machine :=
  match Convert.fieldsOf v with
  | .error f => (.error f, m)
  | .ok fields => ofFields fields m

/-! ## Writing -/

/-- Weekdays as data. -/
def daysValue : Option (List Weekday) → Value
  | some days => .list (days.map fun d => .text d.name)
  | none => .null

/-- The kept fields of a task. -/
def fields (t : Task) : List (String × Value) :=
  [("id", .text t.id), ("name", .text t.name), ("script_path", .text t.scriptPath),
    ("enabled", .bool t.enabled), ("schedule_type", .text t.rhythm.word),
    ("execution_time", .text (clockText ":" t.time.micros)), ("days_of_week", daysValue t.days),
    ("interval_minutes", (t.interval.map Value.int).getD .null),
    ("created_at", .text t.created.iso), ("notify_on_completion", .bool t.notifies),
    ("notify_policy", .text t.policy.word), ("notify_interval_minutes", .int t.notifyInterval),
    ("notify_webhook_url", (t.webhookUrl.map Value.text).getD .null)]

/-- A task as data. -/
def toValue (t : Task) : Value :=
  .object t.fields

/-- A moment as data. -/
def momentValue (m : Option Moment) : Value :=
  (m.map fun m => Value.text m.iso).getD .null

/-- A task as data, with its last and next run and its last notification. -/
def toFullValue (t : Task) : Value :=
  .object (t.fields ++ [("last_run", momentValue t.lastRun), ("next_run", momentValue t.nextRun),
    ("last_notification_time", momentValue t.lastNotified)])

/-- Two tasks agree in the fields that are kept. -/
def agrees (s t : Task) : Bool :=
  s.id == t.id && s.name == t.name && s.scriptPath == t.scriptPath && s.enabled == t.enabled
    && s.rhythm == t.rhythm && s.time.same t.time && s.days == t.days && s.interval == t.interval
    && s.created.same t.created && s.notifies == t.notifies && s.policy == t.policy
    && s.notifyInterval == t.notifyInterval && s.webhookUrl == t.webhookUrl

end Task

end Deskwork.Schedule
