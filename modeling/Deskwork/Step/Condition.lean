/-
# Conditions

Comparing two texts: as texts, or as numbers. A comparison of numbers fails when one of the texts is
no number.
-/
import Deskwork.Data.Convert
import Deskwork.Number.Quantity
import Deskwork.Step.Session
import Deskwork.Text.Substitute

namespace Deskwork

open Deskwork.Number Deskwork.Text

/-- A condition on two texts. -/
inductive Condition where
  | equal
  | notEqual
  | greaterThan
  | greaterThanOrEqual
  | lessThan
  | lessThanOrEqual
  | contains
  | notContains
  /-- The first text is blank. -/
  | isEmpty
  /-- The first text is not blank. -/
  | isNotEmpty
  deriving DecidableEq, Repr

namespace Condition

/-- The word for a condition. -/
def word : Condition → String
  | .equal => "equal"
  | .notEqual => "not_equal"
  | .greaterThan => "greater_than"
  | .greaterThanOrEqual => "greater_than_or_equal"
  | .lessThan => "less_than"
  | .lessThanOrEqual => "less_than_or_equal"
  | .contains => "contains"
  | .notContains => "not_contains"
  | .isEmpty => "is_empty"
  | .isNotEmpty => "is_not_empty"

/-- The conditions in data. -/
def choice : Choice Condition :=
  ⟨"ConditionType",
    [.equal, .notEqual, .greaterThan, .greaterThanOrEqual, .lessThan, .lessThanOrEqual, .contains,
      .notContains, .isEmpty, .isNotEmpty], fun c => .text c.word⟩

/-- Two numbers compared; on other conditions it is no. -/
def compare (c : Condition) (x y : Float) : Bool :=
  match c with
  | .greaterThan => y < x
  | .greaterThanOrEqual => y <= x
  | .lessThan => x < y
  | .lessThanOrEqual => x <= y
  | _ => false

/-- Two texts compared as numbers, or the one that is no number. -/
def compareTexts (c : Condition) (left right : String) : Except String Bool :=
  match readQuantity left, readQuantity right with
  | some x, some y => .ok (c.compare x y)
  | none, _ => .error left
  | _, none => .error right

/-- Whether the condition holds, or the text that should be a number and is none. -/
def judge (c : Condition) (left right : String) : Except String Bool :=
  match c with
  | .equal => .ok (left == right)
  | .notEqual => .ok (left != right)
  | .contains => .ok (holds left right)
  | .notContains => .ok (!holds left right)
  | .isEmpty => .ok (allBlank left)
  | .isNotEmpty => .ok (!allBlank left)
  | c => c.compareTexts left right

/-- Whether the condition holds; a text that should be a number and is none makes it fail. -/
def test (c : Condition) (left right : String) : Bool :=
  (c.judge left right).toOption.getD false

/-- Whether the condition holds, with a warning about a text that should be a number. -/
def evaluate (c : Condition) (left right : String) : StepM Bool := do
  match c.judge left right with
  | .ok b => return b
  | .error bad =>
    StepM.warn ("'" ++ bad ++ "' is not a number; condition evaluates to false")
    return false

/-- The text that describes a condition. -/
def describe (c : Condition) (left right : String) : String :=
  match c with
  | .equal => left ++ " == " ++ right
  | .notEqual => left ++ " != " ++ right
  | .greaterThan => left ++ " > " ++ right
  | .greaterThanOrEqual => left ++ " >= " ++ right
  | .lessThan => left ++ " < " ++ right
  | .lessThanOrEqual => left ++ " <= " ++ right
  | .contains => left ++ " contains '" ++ right ++ "'"
  | .notContains => left ++ " does not contain '" ++ right ++ "'"
  | .isEmpty => left ++ " is empty"
  | .isNotEmpty => left ++ " is not empty"

end Condition

end Deskwork
