/-
# Loops

A loop begins at a marker and ends with a step that sends control back to the marker until its
condition is met. The number of repetitions is counted at the end of the loop.
-/
import Deskwork.Step.Condition

namespace Deskwork

open Deskwork.Number Deskwork.Text

/-! ## The start of a loop -/

/-- The start of a loop. -/
structure LoopStart where
  comment : String
  deriving DecidableEq, Repr

namespace LoopStart

/-- The start of a loop from the fields of its data. -/
def ofFields (fs : List (String × Value)) : Except Fault LoopStart := do
  let comment ← Convert.field fs "comment" Convert.text ""
  return ⟨comment⟩

/-- The fields of the start of a loop as data. -/
def fields (l : LoopStart) : List (String × Value) := [("comment", .text l.comment)]

/-- The text that describes the start of a loop. -/
def describe (l : LoopStart) : String :=
  if allBlank l.comment then "Loop start" else "Loop start: " ++ l.comment

/-- The start of a loop only marks a position. -/
def run : StepM Unit := StepM.debug "Entering loop body"

end LoopStart

/-! ## The end of a loop -/

/-- When a loop ends. -/
inductive LoopEnding where
  | always
  | ifEqual
  | ifNotEqual
  | ifGreaterThan
  | ifLessThan
  /-- When the first text is blank. -/
  | ifEmpty
  /-- When the first text is not blank. -/
  | ifNotEmpty
  | maxIterations
  deriving DecidableEq, Repr

namespace LoopEnding

/-- The word for an ending. -/
def word : LoopEnding → String
  | .always => "always"
  | .ifEqual => "if_equal"
  | .ifNotEqual => "if_not_equal"
  | .ifGreaterThan => "if_greater_than"
  | .ifLessThan => "if_less_than"
  | .ifEmpty => "if_empty"
  | .ifNotEmpty => "if_not_empty"
  | .maxIterations => "max_iterations"

/-- The endings in data. -/
def choice : Choice LoopEnding :=
  ⟨"LoopEndConditionType",
    [.always, .ifEqual, .ifNotEqual, .ifGreaterThan, .ifLessThan, .ifEmpty, .ifNotEmpty,
      .maxIterations], fun e => .text e.word⟩

/-- The condition on which a loop ends, where there is one. -/
def condition? : LoopEnding → Option Condition
  | .always | .maxIterations => none
  | .ifEqual => some .equal
  | .ifNotEqual => some .notEqual
  | .ifGreaterThan => some .greaterThan
  | .ifLessThan => some .lessThan
  | .ifEmpty => some .isEmpty
  | .ifNotEmpty => some .isNotEmpty

end LoopEnding

/-- The end of a loop. -/
structure LoopEnd where
  start : Int
  ending : LoopEnding
  left : String
  right : String
  maxIterations : Int
  deriving DecidableEq, Repr

namespace LoopEnd

/-- The end of a loop from the fields of its data. -/
def ofFields (fs : List (String × Value)) : Except Fault LoopEnd := do
  let start ← Convert.field fs "loop_start_position" Convert.int 0
  let ending ← Convert.field fs "end_condition_type" (Convert.choice LoopEnding.choice) .always
  let left ← Convert.field fs "left_value" Convert.text ""
  let right ← Convert.field fs "right_value" Convert.text ""
  let maxIterations ← Convert.field fs "max_iterations" Convert.int 100
  return ⟨start, ending, left, right, maxIterations⟩

/-- The fields of the end of a loop as data. -/
def fields (l : LoopEnd) : List (String × Value) :=
  [("loop_start_position", .int l.start), ("end_condition_type", .text l.ending.word),
    ("left_value", .text l.left), ("right_value", .text l.right),
    ("max_iterations", .int l.maxIterations)]

/-- The text that describes when the loop ends. -/
def describeEnding (l : LoopEnd) : String :=
  match l.ending.condition? with
  | some c => "exit if " ++ c.describe l.left l.right
  | none =>
    if l.ending = .always then "always exit"
    else "exit after " ++ intText l.maxIterations ++ " iterations"

/-- The text that describes the end of a loop. -/
def describe (l : LoopEnd) : String :=
  "Loop end (back to #" ++ intText l.start ++ "): " ++ l.describeEnding

/-- There is a start, and the number of repetitions is positive where it counts. -/
def check (l : LoopEnd) : Except Fault Unit :=
  if l.start ≤ 0 then .error (.invalid .noLoopStart)
  else if l.ending = .maxIterations ∧ l.maxIterations ≤ 0 then .error (.invalid .noIterations)
  else .ok ()

/-- A template field overwritten. -/
def write (name : String) (c : Template.Content) (l : LoopEnd) : LoopEnd :=
  if name = "left_value" then { l with left := c.textOr l.left }
  else if name = "right_value" then { l with right := c.textOr l.right }
  else l

/-! ## Running -/

/-- The tag of the start of a loop. -/
def startTag : String := "loop_start"

/-- The number of repetitions set. -/
def setIteration (n : Int) : StepM Unit :=
  StepM.change fun s => { s with progress := { s.progress with iteration := n } }

/-- The loop ends after `n` repetitions. -/
def leaves (l : LoopEnd) (n : Int) : StepM Bool :=
  match l.ending.condition? with
  | some c => c.evaluate l.left l.right
  | none => pure (l.ending = .always || l.maxIterations ≤ n)

/-- A repetition counted, and control sent back unless the loop ends. -/
def run (l : LoopEnd) : StepM Unit := do
  let _ ← StepM.lookUp l.start (some startTag)
  let s ← get
  if s.position ≠ 0 ∧ s.position ≤ l.start then
    throw (.control (.loopBackward l.start s.position))
  let n := s.progress.iteration + 1
  setIteration n
  if ← l.leaves n then
    StepM.info ("Leaving loop after " ++ intText n ++ " iteration(s)")
    setIteration 0
  else
    StepM.info ("Loop iteration " ++ intText n ++ " done, continuing")
    StepM.request .loopBack l.start

end LoopEnd

end Deskwork
