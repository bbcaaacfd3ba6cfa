/-
# Steps

Steps are actions that may be disabled and whose failure need not stop the script. A slot holds a
step of a script together with its progress.
-/
import Deskwork.Step.Action
import Deskwork.Step.Probe

namespace Deskwork

open Deskwork.Text

/-! ## Authored steps -/

/-- A step of a script. -/
structure Step where
  enabled : Bool
  continueOnError : Bool
  action : Action
  deriving DecidableEq

/-- A step with a tag and the fields of its data as data. -/
def stepValue (tag : String) (enabled continueOnError : Bool) (fields : List (String × Value)) :
    Value :=
  .object [("type", .text tag),
    ("data", .object (("enabled", .bool enabled) :: ("continue_on_error", .bool continueOnError)
      :: fields))]

namespace Step

/-- A step as data. -/
def toValue (s : Step) : Value :=
  stepValue s.action.tag s.enabled s.continueOnError s.action.fields

/-- The tag of data without blanks around it, in lower case. -/
def tagOf (fields : List (String × Value)) : String :=
  lower (trim (Value.fieldOr fields "type" (.text "")).asText)

/-- The fields of the data of a step with a tag. -/
def payloadOf (tag : String) (fields : List (String × Value)) :
    Except Fault (List (String × Value)) :=
  let payload := Value.fieldOr fields "data" .null
  if !payload.isTrue then .ok []
  else
    match payload with
    | .object fs => .ok fs
    | _ => .error (.failed (.badPayload tag))

/-- The step in an object. -/
def ofFields (fields : List (String × Value)) : Except Fault Step :=
  let tag := tagOf fields
  match Action.readers.lookup tag with
  | none => .error (.failed (.unknownKind tag))
  | some reader => do
    let fs ← payloadOf tag fields
    let enabled ← Convert.field fs "enabled" Convert.bool true
    let continueOnError ← Convert.field fs "continue_on_error" Convert.bool false
    let action ← reader fs
    return ⟨enabled, continueOnError, action⟩

end Step

/-! ## What stands in a slot -/

/-- What can be run: an action, a probe, or a step that has nothing to do. -/
inductive Work where
  | action (a : Action)
  | probe (p : Probe)
  /-- A step that has nothing to do and no kind. -/
  | bare

namespace Work

/-- The tag. -/
def tag : Work → String
  | .action a => a.tag
  | .probe _ => Probe.tag
  | .bare => ""

/-- The name. -/
def name : Work → String
  | .action a => a.name
  | .probe p => p.name
  | .bare => ""

/-- The text that describes it. -/
def describe : Work → Except Fault String
  | .action a => a.describe
  | .probe p => .ok p.name
  | .bare => .ok ""

/-- The fields as data. -/
def fields : Work → List (String × Value)
  | .action a => a.fields
  | .probe p => p.fields
  | .bare => []

/-- The names of the fields in which templates are expanded. -/
def templateFields : Work → List String
  | .action a => a.templateFields
  | .probe _ => ["label", "items", "number"]
  | .bare => []

/-- The values of the fields in which templates are expanded. -/
def templateValues (w : Work) : List (String × Value) :=
  w.fields.filter fun f => w.templateFields.contains f.1

/-- The positions of other steps to which it refers. -/
def references : Work → List Int
  | .action a => a.references
  | .probe p => p.references
  | .bare => []

/-- What stands in a field. -/
def read (w : Work) (name : String) : Template.Content :=
  .ofValue (Value.fieldOr w.fields name .null)

/-- The work with a template field overwritten. -/
def write (name : String) (c : Template.Content) : Work → Work
  | .action a => .action (a.write name c)
  | .probe p => .probe (p.write name c)
  | .bare => .bare

/-- The fields of the given names expanded in place, one after the other, up to the first that
cannot be expanded. The result tells what stood in those that changed; when the expansion fails,
that is not told, and the fields that were changed stay as they are. -/
def expandFields (bindings : List (String × Scalar)) :
    List String → Work → Desk → Except Fault (List (String × Template.Content)) × Work × Desk
  | [], w, d => (.ok [], w, d)
  | name :: names, w, d =>
    let authored := w.read name
    match d.expandContent bindings authored with
    | (.error f, d) => (.error f, w, d)
    | (.ok expanded, d) =>
      if expanded = authored then expandFields bindings names w d
      else
        let (r, w, d) := expandFields bindings names (w.write name expanded) d
        (r.map fun originals => (name, authored) :: originals, w, d)

/-- The template fields expanded in place. -/
def expand (bindings : List (String × Scalar)) (w : Work) (d : Desk) :
    Except Fault (List (String × Template.Content)) × Work × Desk :=
  expandFields bindings w.templateFields w d

/-- The fields overwritten with what stood in them. -/
def restore (originals : List (String × Template.Content)) (w : Work) : Work :=
  originals.foldl (fun w o => w.write o.1 o.2) w

/-- Its fields are valid at a visit. -/
def check (visit : Nat) : Work → Except Fault Unit
  | .action a => a.check
  | .probe p => p.check visit
  | .bare => .ok ()

/-- Its body. -/
def run : Work → StepM Unit
  | .action a => a.run
  | .probe p => p.run
  | .bare => throw .unimplemented

/-- The work is the end of a loop. -/
def isLoopEnd : Work → Bool
  | .action (.loopEnd _) => true
  | _ => false

/-- The surroundings after the state of the work was reset. -/
def noteReset (d : Desk) : Work → Desk
  | .probe p => d.record (.reset p.label)
  | _ => d

end Work

/-! ## Slots -/

/-- A step of a script together with its progress. -/
structure Slot where
  enabled : Bool
  continueOnError : Bool
  work : Work
  progress : Progress

namespace Slot

/-- The slot of an authored step. -/
def ofStep (s : Step) : Slot :=
  ⟨s.enabled, s.continueOnError, .action s.action, .fresh⟩

/-- A slot as data. -/
def toValue (s : Slot) : Value :=
  stepValue s.work.tag s.enabled s.continueOnError s.work.fields

/-- The name of a slot. -/
def name (s : Slot) : String := s.work.name

/-- The session in which the work of a slot runs. -/
def session (s : Slot) (work : Work) (d : Desk) (c : Context) (kinds : Option (List String))
    (running : Bool) (position : Int) : Session :=
  ⟨d, c, false, kinds, running, position, work.name, s.progress, []⟩

/-- The slot with its count of repetitions reset. -/
def resetState (s : Slot) (d : Desk) : Slot × Desk :=
  ({ s with progress := { s.progress with iteration := 0 } }, s.work.noteReset d)

end Slot

namespace StepM

/-- A program over a session run: its result and the session afterwards. -/
def runIn {α : Type} (s : Session) (body : StepM α) : Except Fault α × Session :=
  Id.run (body.run.run s)

/-- The step is validated, and executed when it is valid. -/
def attempt (work : Work) : StepM Bool := do
  let visit := (← get).progress.visits
  if ← validate (work.check visit) then execute work.run else return false

end StepM

end Deskwork
