/-
# Scripts

A script is a named list of steps. It is kept in a file, and a file is either read as a whole or
refused.
-/
import Deskwork.Step.Basic

namespace Deskwork

open Deskwork.Files

/-- A script. -/
structure Script where
  name : String
  steps : List Step
  deriving DecidableEq

/-- The name of a script that has none. -/
def unnamedScript : String := "Unnamed Script"

/-- A name and steps as data. -/
def scriptValue (name : String) (steps : List Value) : Value :=
  .object [("name", .text name), ("actions", .list steps)]

namespace Script

/-! ## Data -/

/-- A script as data. -/
def toValue (s : Script) : Value :=
  scriptValue s.name (s.steps.map Step.toValue)

/-- A fault of a step that makes a script unreadable; other faults are not expected. -/
def wrap (index : Nat) (f : Fault) : Fault :=
  if f.isAction || f.isType || f.isValue then .badStep index f else f

/-- The step at a place of a script. -/
def readStep (index : Nat) (v : Value) : Except Fault Step :=
  match v with
  | .object fields => (Step.ofFields fields).mapError (wrap index)
  | _ => .error (.stepNotObject index)

/-- The steps of a script, the first of which stands at `index`. -/
def readSteps (index : Nat) : List Value → Except Fault (List Step)
  | [] => .ok []
  | v :: rest => do
    let s ← readStep index v
    let others ← readSteps (index + 1) rest
    return s :: others

/-- The script in a value. -/
def ofValue (v : Value) : Except Fault Script :=
  match v with
  | .object fields =>
    let name := (Value.fieldOr fields "name" (.text unnamedScript)).asText
    let steps := Value.fieldOr fields "actions" (.list [])
    if !steps.isTrue then .ok ⟨name, []⟩
    else
      match steps with
      | .list items => (readSteps 1 items).map fun steps => ⟨name, steps⟩
      | _ => .error .stepsNotList
  | _ => .error .scriptNotObject

/-! ## Files -/

/-- The script in a file. -/
def load (t : Tree) (p : Path) : Except Fault Script :=
  match exists? t p with
  | .error f => .error (.file f)
  | .ok false => .error (.noScript p)
  | .ok true =>
    match readValue t p with
    | .error why => .error (.unreadableScript p why)
    | .ok v => ofValue v

/-- A script saved in a file. -/
def save (t : Tree) (p : Path) (s : Script) : Outcome :=
  saveValue t p s.toValue

end Script

end Deskwork
