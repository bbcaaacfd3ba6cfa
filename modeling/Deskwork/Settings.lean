/-
# Settings

The preferences of the program and the file in which they are kept. A file that cannot be used is
put aside, and the preferences are then the standard ones.
-/
import Deskwork.Data.Convert
import Deskwork.Number.Amount

namespace Deskwork

open Deskwork.Number Deskwork.Files

/-! ## Preferences -/

/-- The preferences. -/
structure Settings where
  customVariables : List (String × String)
  webhookUrl : Option String
  /-- The seconds between two looks at the tasks. -/
  checkInterval : Amount
  maxHistory : Int
  maxLogEntries : Int
  deriving DecidableEq

namespace Settings

/-- The standard preferences. -/
def standard : Settings := ⟨[], none, .real 10.0, 100, 500⟩

/-- An amount as a value. -/
def amountValue : Amount → Value
  | .whole n => .int n
  | .real x => .float x

/-- The preferences as a value. -/
def toValue (s : Settings) : Value :=
  .object [
    ("custom_variables", .object (s.customVariables.map fun v => (v.1, .text v.2))),
    ("default_webhook_url", (s.webhookUrl.map Value.text).getD .null),
    ("scheduler_check_interval_seconds", amountValue s.checkInterval),
    ("max_history", .int s.maxHistory),
    ("log_max_entries", .int s.maxLogEntries)]

/-- The field of an object, when it is there and not empty. -/
def filled? (fields : List (String × Value)) (name : String) : Option Value :=
  (Value.field? fields name).filter Value.isTrue

/-- The custom variables of a field: everything becomes a text. -/
def readVariables (fields : List (String × Value)) : List (String × String) :=
  match Value.field? fields "custom_variables" with
  | some (.object vs) => vs.map fun v => (v.1, v.2.asField)
  | _ => []

/-- An address: neither absent nor the empty text. -/
def readUrl (fields : List (String × Value)) (name : String) : Option String :=
  match Value.field? fields name with
  | none | some (.scalar .null) | some (.scalar (.text "")) => none
  | some v => some v.asText

/-- The preferences in an object. -/
def ofFields (fields : List (String × Value)) : Except Fault Settings := do
  let interval ← match filled? fields "scheduler_check_interval_seconds" with
    | some v => Convert.floatOf v
    | none => .ok 10.0
  let history ← match filled? fields "max_history" with
    | some v => Convert.wholeOf v
    | none => .ok 100
  let entries ← match filled? fields "log_max_entries" with
    | some v => Convert.wholeOf v
    | none => .ok 500
  .ok ⟨readVariables fields, readUrl fields "default_webhook_url", .real interval, history, entries⟩

/-- The preferences in a value. -/
def ofValue (v : Value) : Except Fault Settings := do
  ofFields (← Convert.fieldsOf v)

/-! ## The file -/

/-- The file of preferences when no other one is named. -/
def standardPath : Path := Path.ofString "settings.json"

/-- The path under which an unusable file is kept. -/
def asidePath (p : Path) : Except Fault Path :=
  if p.name = "" then .error (.file (.noName p)) else .ok (p.rename (p.stem ++ ".bak"))

/-- The standard preferences, after the file was put aside if that is possible. -/
def putAside (t : Tree) (p : Path) : Except Fault Settings × Tree :=
  match asidePath p with
  | .error f => (.error f, t)
  | .ok aside =>
    match replace t p aside with
    | .ok t' => (.ok standard, t')
    | .error (.refused _ _ _) => (.ok standard, t)
    | .error f => (.error (.file f), t)

/-- What a file gives: preferences, nothing usable, or a fault. -/
inductive Contents where
  | settings (s : Settings)
  /-- Nothing that could be used. -/
  | unusable
  /-- A fault that nobody expects. -/
  | fault (why : Fault)

/-- The contents of an existing file. -/
def readFile (t : Tree) (p : Path) : Contents :=
  match readValue t p with
  | .error _ => .unusable
  | .ok (.object fields) =>
    match ofFields fields with
    | .ok s => .settings s
    | .error f => if f.isValue || f.isSystem then .unusable else .fault f
  | .ok _ => .unusable

/-- The preferences of a file, and the files afterwards: a missing file gives the standard ones, and
an unusable file is put aside. -/
def load (t : Tree) (p : Path) : Except Fault Settings × Tree :=
  match exists? t p with
  | .error f => (.error (.file f), t)
  | .ok false => (.ok standard, t)
  | .ok true =>
    match readFile t p with
    | .settings s => (.ok s, t)
    | .fault f => (.error f, t)
    | .unusable => putAside t p

/-- The preferences saved in a file. -/
def save (t : Tree) (p : Path) (s : Settings) : Except Fault Unit × Tree :=
  let (r, t') := saveValue t p s.toValue
  (r.mapError .file, t')

end Settings

end Deskwork
