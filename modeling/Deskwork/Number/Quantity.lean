/-
# Quantities

Finite numbers in texts, in which commas mean nothing, and the form in which results are kept: whole
numbers without a point.
-/
import Deskwork.Data.Value
import Deskwork.Number.Numeral
import Deskwork.Text.Blank

namespace Deskwork.Number

open Deskwork.Text

/-- A floating-point number is finite. -/
def isFinite (x : Float) : Bool :=
  match exactValue x with
  | .finite _ => true
  | _ => false

/-- The finite number in a text, if there is one. -/
def readQuantity (s : String) : Option Float :=
  let text := String.ofList ((trim s).toList.filter (· ≠ ','))
  if text.isEmpty then none
  else
    match readFloat text with
    | .ok x => if isFinite x then some x else none
    | .error _ => none

/-- What exceeds a whole number by less than this is taken for the whole number. -/
def wholeTolerance : Float := 1e-7

/-- A result as it is kept: as a whole number when it hardly exceeds one. -/
def normalize (x : Float) : Scalar :=
  match exactValue x with
  | .finite d => if fraction x < wholeTolerance then .int d.round else .float x
  | _ => .float x

/-- A whole result is kept without a point. -/
example : [2.0, 2.5, -3.0].map normalize = [.int 2, .float 2.5, .int (-3)] := by decide +kernel

end Deskwork.Number
