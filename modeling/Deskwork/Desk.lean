/-
# The Desk

The machine together with its log and the expander of templates: the surroundings of every script.
Here entries are logged and templates expanded.
-/
import Deskwork.Log
import Deskwork.Settings
import Deskwork.Template.Content
import Deskwork.Template.Expander
import Deskwork.Template.Tokens

namespace Deskwork

open Deskwork.Template

/-- The surroundings of a script. -/
structure Desk where
  machine : Machine
  log : StatusLog
  expander : Expander

namespace Desk

/-- The desk after an event. -/
def record (d : Desk) (e : Event) : Desk :=
  { d with machine := d.machine.record e }

/-! ## Logging -/

/-- An entry made now. -/
def entry (d : Desk) (level : Level) (source message : String) : LogEntry :=
  ⟨d.machine.wall, message, level, source⟩

/-- An entry kept in the log. -/
def keep (d : Desk) (e : LogEntry) : Desk :=
  { d with
    machine := d.machine.record (.logged e.level e.source e.message)
    log := { d.log with entries := StatusLog.keep d.log.capacity d.log.entries e } }

/-- A listener told of an entry. -/
def tell (e : LogEntry) (d : Desk) (l : Listener) : Desk :=
  match l.manner with
  | .print => d.record (.printed e.line)
  | .leave =>
    let d := d.record (.heard l.name e.line)
    { d with log := d.log.unlisten l.name }
  | _ => d.record (.heard l.name e.line)

/-- The source of echoed entries. -/
def echoSource : String := "echo"

/-- An entry logged without an echo. -/
def logQuietly (d : Desk) (level : Level) (source message : String) : Desk :=
  if d.log.accepts level then
    let e := d.entry level source message
    d.log.listeners.foldl (tell e) (d.keep e)
  else d

/-- A listener told of an entry, who may echo it. -/
def tellLoudly (e : LogEntry) (d : Desk) (l : Listener) : Desk :=
  let d := tell e d l
  if l.manner = .echo && e.source != echoSource then
    d.logQuietly .debug echoSource ("echo " ++ e.message)
  else d

/-- An entry logged when its level is accepted: it is kept, and the listeners of that moment are told
one after the other. -/
def logged (d : Desk) (level : Level) (source message : String) : Desk :=
  if d.log.accepts level then
    let e := d.entry level source message
    d.log.listeners.foldl (tellLoudly e) (d.keep e)
  else d

/-- A debugging entry. -/
def debug (d : Desk) (source message : String) : Desk := d.logged .debug source message

/-- An informational entry. -/
def info (d : Desk) (source message : String) : Desk := d.logged .info source message

/-- A warning. -/
def warn (d : Desk) (source message : String) : Desk := d.logged .warning source message

/-- An error entry. -/
def error (d : Desk) (source message : String) : Desk := d.logged .error source message

/-- The current status changed, which is also logged. -/
def updateStatus (d : Desk) (status source : String) : Desk :=
  { d with log := { d.log with status := status } }.info source status

/-- The entries removed, which is logged. -/
def clearLog (d : Desk) : Desk :=
  { d with log := { d.log with entries := [] } }.info "" "Log history cleared"

/-- The log as the contents of a file. -/
def exportText (d : Desk) : String :=
  "autoscript - Log Export\nGenerated: " ++ d.machine.wall.plain ++ "\n"
    ++ String.ofList (List.replicate 50 '=') ++ "\n\n"
    ++ String.join (d.log.entries.map fun e => e.datedLine ++ "\n")

/-- The log written to a file; a refusal of the system is logged. -/
def exportLog (d : Desk) (path : String) : Except Fault Bool × Desk :=
  match Files.writeNamed d.machine.files path d.exportText with
  | .ok files => (.ok true, { d with machine := { d.machine with files := files } })
  | .error f =>
    if (Fault.file f).isSystem then
      (d.log.ready.map fun _ => false, d.error "Logger" ("Failed to export logs: " ++ f.message))
    else (.error (.file f), d)

/-! ## Custom variables -/

/-- The source of entries about templates. -/
def templateSource : String := "Templates"

/-- The provider asked for the custom variables. -/
def consult (d : Desk) : Except Fault (List (String × String)) × Desk :=
  match d.expander.provider with
  | .none => (.ok [], d)
  | .given bindings => (.ok bindings, d.record .consulted)
  | .failing why => (.error (.ofForeign why), d.record .consulted)
  | .settings path =>
    let (r, files) := Settings.load d.machine.files path
    (r.map Settings.customVariables, { d with machine := { d.machine with files := files } })

/-- The custom variables: the remembered ones, or else those of the provider. A failure gives none
and is remembered as well. -/
def customVariables (d : Desk) : List (String × String) × Desk :=
  match d.expander.known with
  | some bindings => (bindings, d)
  | none =>
    let (r, d) := d.consult
    let (bindings, d) := match r with
      | .ok bindings => (bindings, d)
      | .error f =>
        ([], if d.expander.logs then
          d.warn templateSource ("Failed to load custom variables: " ++ f.message) else d)
    (bindings, { d with expander := { d.expander with known := some bindings } })

/-! ## Expansion -/

/-- The name of the user; when the system does not know it, it is empty. -/
def userName (d : Desk) : Except Fault String :=
  match d.machine.user with
  | .ok name => .ok name
  | .error why =>
    if why.isSystem || why.name = "KeyError" then .ok "" else .error (.ofForeign why)

/-- The standard names and their values at a moment. -/
def standardValues (d : Desk) (now : Time.Moment) : Except Fault (List (String × String)) :=
  d.userName.map fun user => Template.standardValues now user d.machine.computer

/-- A text with its tokens replaced: first the standard names, then the variables of the run, then
the custom variables. -/
def expand (d : Desk) (bindings : List (String × Scalar)) (text : String) :
    Except Fault String × Desk :=
  if !mayHoldTokens text then (.ok text, d)
  else
    match d.standardValues d.machine.wall with
    | .error f => (.error f, d)
    | .ok standard =>
      let own := bindings.map fun v => (v.1, v.2.asText)
      let (custom, d) := d.customVariables
      (.ok (fillAll (fillAll (fillAll text standard) own) custom), d)

/-- Texts expanded one after the other. -/
def expandAll (d : Desk) (bindings : List (String × Scalar)) :
    List String → Except Fault (List String) × Desk
  | [] => (.ok [], d)
  | text :: rest =>
    match d.expand bindings text with
    | (.error f, d) => (.error f, d)
    | (.ok expanded, d) =>
      let (r, d) := d.expandAll bindings rest
      (r.map fun texts => expanded :: texts, d)

/-- What stands in a template field, expanded. -/
def expandContent (d : Desk) (bindings : List (String × Scalar)) :
    Content → Except Fault Content × Desk
  | .text s =>
    let (r, d) := d.expand bindings s
    (r.map .text, d)
  | .texts items =>
    let (r, d) := d.expandAll bindings items
    (r.map .texts, d)
  | .other => (.ok .other, d)

end Desk

end Deskwork
