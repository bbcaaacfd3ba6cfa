/-
# Mouse Clicks

A click at a place of the screen. When the first way to send it fails, the substitute is tried.
-/
import Deskwork.Data.Convert
import Deskwork.Step.Session

namespace Deskwork

open Deskwork.Number

/-! ## Fields -/

/-- Which click. -/
inductive ClickType where
  | left
  | right
  /-- Twice with the left button. -/
  | double
  | middle
  deriving DecidableEq, Repr

namespace ClickType

/-- The word for a click. -/
def word : ClickType → String
  | .left => "left"
  | .right => "right"
  | .double => "double"
  | .middle => "middle"

/-- The clicks in data. -/
def choice : Choice ClickType :=
  ⟨"MouseClickType", [.left, .right, .double, .middle], fun c => .text c.word⟩

/-- The button that is clicked. -/
def button : ClickType → String
  | .double => "left"
  | c => c.word

/-- How often it is clicked. -/
def count : ClickType → Nat
  | .double => 2
  | _ => 1

end ClickType

/-- A mouse click. -/
structure MouseClick where
  x : Int
  y : Int
  click : ClickType
  /-- The milliseconds to wait afterwards. -/
  delay : Int
  deriving DecidableEq, Repr

namespace MouseClick

/-- A mouse click from the fields of its data. -/
def ofFields (fs : List (String × Value)) : Except Fault MouseClick := do
  let x ← Convert.field fs "x" Convert.int 0
  let y ← Convert.field fs "y" Convert.int 0
  let click ← Convert.field fs "click_type" (Convert.choice ClickType.choice) .left
  let delay ← Convert.field fs "delay_after_ms" Convert.int 100
  return ⟨x, y, click, delay⟩

/-- The fields of a mouse click as data. -/
def fields (m : MouseClick) : List (String × Value) :=
  [("x", .int m.x), ("y", .int m.y), ("click_type", .text m.click.word),
    ("delay_after_ms", .int m.delay)]

/-- The text that describes a mouse click. -/
def describe (m : MouseClick) : String :=
  m.click.word ++ " click at (" ++ intText m.x ++ ", " ++ intText m.y ++ ")"

/-- No coordinate is negative. -/
def check (m : MouseClick) : Except Fault Unit :=
  if m.x < 0 || m.y < 0 then .error (.invalid .negativeCoordinates) else .ok ()

/-! ## Running -/

/-- The click sent in the first way, with a pause before for the pointer and one afterwards. -/
def send (m : MouseClick) (input : Availability) : StepM Unit := do
  if input = .broken then throw (.foreign brokenInput)
  StepM.happen (.pointed m.x m.y)
  StepM.sleep 0.05
  StepM.happen (.clicked m.click.button m.click.count)
  StepM.sleepMillis m.delay

/-- The click sent by the substitute. -/
def sendBySubstitute (m : MouseClick) (substitute : Availability) : StepM Unit := do
  match substitute.substituteFault with
  | some why => throw (.failed (.noClick why))
  | none => StepM.happen (.clickedAt m.x m.y m.click.count m.click.button)
  StepM.sleepMillis m.delay

/-- The click sent, by the substitute when the first way is missing or anything in it fails. -/
def run (m : MouseClick) : StepM Unit := do
  StepM.info ("mouse_click: x=" ++ intText m.x ++ ", y=" ++ intText m.y ++ ", button="
    ++ m.click.word)
  let machine := (← get).desk.machine
  if machine.input = .missing then m.sendBySubstitute machine.substitute
  else
    try m.send machine.input
    catch f =>
      StepM.warn ("pynput mouse_click failed, fallback to pyautogui: " ++ f.message)
      m.sendBySubstitute machine.substitute

end MouseClick

end Deskwork
