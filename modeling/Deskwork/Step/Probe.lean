/-
# Probes

Steps of one's own, to try out and to watch a run. What a probe does may differ from visit to visit:
it can change the run, ask about other steps, request a transfer of control, or fail.
-/
import Deskwork.Step.Session

namespace Deskwork

/-! ## Deeds -/

/-- Something that a probe does. -/
inductive Deed where
  /-- It tries to run its engine again. -/
  | reenter
  | lookUp (position : Int)
  | request (transfer : Transfer) (target : Int)
  | setVariable (name : String) (value : Scalar)
  | openResource (key : String) (handle : Handle)
  | disable (position : Int)
  | fail (why : Fault)
  deriving DecidableEq

namespace Deed

/-- An attempt to run the engine again is refused while it is running. -/
def runAgain : StepM Unit := do
  if (← get).running then
    StepM.changeDesk fun d => d.warn engineSource "A script is already running on this engine"
    StepM.happen (.reentered false true)
  else StepM.happen (.reentered true false)

/-- A resource registered in the context. -/
def register (key : String) (handle : Handle) : StepM Unit := do
  let s ← get
  let (c, d) := s.context.register s.desk key handle
  set { s with desk := d, context := c, inUse := true }

/-- The deed done. -/
def run : Deed → StepM Unit
  | .reenter => runAgain
  | .lookUp position => do StepM.happen (.lookedUp (← StepM.lookUp position none))
  | .request transfer target => StepM.request transfer target
  | .setVariable name value => StepM.setVariable name value
  | .openResource key handle => register key handle
  | .disable position => do
    let _ ← StepM.lookUp position none
    StepM.change fun s => { s with disabled := s.disabled ++ [position] }
  | .fail why => throw why

end Deed

/-! ## Probes -/

/-- A probe. -/
structure Probe where
  label : String
  items : List String
  number : Int
  /-- The positions of other steps to which it refers. -/
  references : List Int
  /-- Whether it is valid at each visit. -/
  check : Nat → Except Fault Unit
  /-- What it does at each visit. -/
  routine : Nat → List Deed

namespace Probe

/-- The tag of probes. -/
def tag : String := "probe"

/-- The name of a probe. -/
def name (p : Probe) : String := "Probe " ++ p.label

/-- The fields of a probe as data. -/
def fields (p : Probe) : List (String × Value) :=
  [("label", .text p.label), ("items", .list (p.items.map Value.text)), ("number", .int p.number)]

/-- A template field overwritten. -/
def write (name : String) (c : Template.Content) (p : Probe) : Probe :=
  if name = "label" then { p with label := c.textOr p.label }
  else if name = "items" then { p with items := c.textsOr p.items }
  else p

/-- The deeds done one after the other, after a note in the journal. -/
def run (p : Probe) : StepM Unit := do
  let s ← get
  StepM.happen (.visited p.label p.items s.position)
  (p.routine s.progress.visits).forM Deed.run

end Probe

end Deskwork
