/-
# Branches

A branch looks at a condition; when it holds, control may skip the next step, go to another step, or
leave the script.
-/
import Deskwork.Step.Condition

namespace Deskwork

open Deskwork.Number

/-! ## Fields -/

/-- What follows when the condition holds. -/
inductive Consequence where
  | proceed
  | skipNext
  | jump
  | exit
  deriving DecidableEq, Repr

namespace Consequence

/-- The word for a consequence. -/
def word : Consequence → String
  | .proceed => "continue"
  | .skipNext => "skip_next"
  | .jump => "jump_to_action"
  | .exit => "exit_script"

/-- The consequences in data. -/
def choice : Choice Consequence :=
  ⟨"IfThenAction", [.proceed, .skipNext, .jump, .exit], fun c => .text c.word⟩

/-- The text that describes a consequence. -/
def describe (c : Consequence) (target : Int) : String :=
  match c with
  | .proceed => "continue"
  | .skipNext => "skip next"
  | .jump => "jump to #" ++ intText target
  | .exit => "exit"

end Consequence

/-- A branch. -/
structure Branch where
  left : String
  right : String
  condition : Condition
  consequence : Consequence
  target : Int
  deriving DecidableEq, Repr

namespace Branch

/-- A branch from the fields of its data. -/
def ofFields (fs : List (String × Value)) : Except Fault Branch := do
  let left ← Convert.field fs "left_value" Convert.text ""
  let right ← Convert.field fs "right_value" Convert.text ""
  let condition ← Convert.field fs "condition_type" (Convert.choice Condition.choice) .equal
  let consequence ← Convert.field fs "then_action" (Convert.choice Consequence.choice) .proceed
  let target ← Convert.field fs "jump_to_position" Convert.int 0
  return ⟨left, right, condition, consequence, target⟩

/-- The fields of a branch as data. -/
def fields (b : Branch) : List (String × Value) :=
  [("left_value", .text b.left), ("right_value", .text b.right),
    ("condition_type", .text b.condition.word), ("then_action", .text b.consequence.word),
    ("jump_to_position", .int b.target)]

/-- The text that describes a branch. -/
def describe (b : Branch) : String :=
  "If (" ++ b.condition.describe b.left b.right ++ ") then " ++ b.consequence.describe b.target

/-- A jump has a target. -/
def check (b : Branch) : Except Fault Unit :=
  if b.consequence = .jump ∧ b.target ≤ 0 then .error (.invalid .noJumpTarget) else .ok ()

/-- The positions of other steps to which the branch refers. -/
def references (b : Branch) : List Int :=
  if b.consequence = .jump then [b.target] else []

/-- A template field overwritten. -/
def write (name : String) (c : Template.Content) (b : Branch) : Branch :=
  if name = "left_value" then { b with left := c.textOr b.left }
  else if name = "right_value" then { b with right := c.textOr b.right }
  else b

/-! ## Running -/

/-- The transfer of control that the consequence requests. -/
def transfer (b : Branch) : StepM Unit :=
  match b.consequence with
  | .proceed => pure ()
  | .skipNext => StepM.request .skipNext 0
  | .jump => StepM.request .jump b.target
  | .exit => StepM.request .exit 0

/-- The condition looked at. -/
def run (b : Branch) : StepM Unit := do
  let result ← b.condition.evaluate b.left b.right
  StepM.info (b.describe ++ " -> " ++ (Scalar.bool result).asText)
  if result then b.transfer

end Branch

end Deskwork
