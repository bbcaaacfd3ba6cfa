/-
# Variables

Setting a variable of the run, and adding to it or subtracting from it.
-/
import Deskwork.Data.Convert
import Deskwork.Number.Quantity
import Deskwork.Step.Session

namespace Deskwork

open Deskwork.Number Deskwork.Text

/-! ## Fields -/

/-- What is done to a variable. -/
inductive VariableVerb where
  | set
  | add
  | subtract
  deriving DecidableEq, Repr

namespace VariableVerb

/-- The word for a verb. -/
def word : VariableVerb → String
  | .set => "set"
  | .add => "add"
  | .subtract => "subtract"

/-- The sign for a verb. -/
def sign : VariableVerb → String
  | .set => "="
  | .add => "+="
  | .subtract => "-="

/-- The verbs in data. -/
def choice : Choice VariableVerb :=
  ⟨"VariableOperation", [.set, .add, .subtract], fun v => .text v.word⟩

end VariableVerb

/-- A variable is set or changed. -/
structure Assignment where
  variableName : String
  operand : String
  verb : VariableVerb
  deriving DecidableEq, Repr

namespace Assignment

/-- An assignment from the fields of its data. -/
def ofFields (fs : List (String × Value)) : Except Fault Assignment := do
  let variableName ← Convert.field fs "variable_name" Convert.text ""
  let operand ← Convert.field fs "value" Convert.text ""
  let verb ← Convert.field fs "operation" (Convert.choice VariableVerb.choice) .set
  return ⟨variableName, operand, verb⟩

/-- The fields of an assignment as data. -/
def fields (a : Assignment) : List (String × Value) :=
  [("variable_name", .text a.variableName), ("value", .text a.operand),
    ("operation", .text a.verb.word)]

/-- The text that describes an assignment. -/
def describe (a : Assignment) : String :=
  a.variableName ++ " " ++ a.verb.sign ++ " " ++ a.operand

/-- There is a variable. -/
def check (a : Assignment) : Except Fault Unit :=
  if allBlank a.variableName then .error (.invalid .noVariableName) else .ok ()

/-- A template field overwritten. -/
def write (name : String) (c : Template.Content) (a : Assignment) : Assignment :=
  if name = "value" then { a with operand := c.textOr a.operand } else a

/-! ## Running -/

/-- The new value of a variable that had the value `current`. -/
def result (a : Assignment) (current : Option Scalar) : Except Failure Scalar :=
  match a.verb with
  | .set =>
    match readQuantity a.operand with
    | some x => .ok (normalize x)
    | none => .ok (.text a.operand)
  | verb =>
    match current with
    | none | some .null => .error (.undefinedVariable a.variableName)
    | some old =>
      match readQuantity old.asText with
      | none => .error (.notNumericVariable a.variableName old.asText)
      | some x =>
        match readQuantity a.operand with
        | none => .error (.notNumericValue a.operand)
        | some y => .ok (normalize (if verb = .add then x + y else x - y))

/-- The variable set. -/
def run (a : Assignment) : StepM Unit := do
  let current ← StepM.value? a.variableName
  match a.result current with
  | .error why => throw (.failed why)
  | .ok value =>
    StepM.setVariable a.variableName value
    StepM.info (a.variableName ++ " = " ++ value.asText)

end Assignment

end Deskwork
