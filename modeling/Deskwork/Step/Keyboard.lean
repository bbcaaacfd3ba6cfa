/-
# Keyboard Input

Typing a text, pressing a key, and pressing a key together with others. Keys are named; a name is tidied
and may be another word for a key, and it stands for a key that the driver knows or else for a single
character.
-/
import Deskwork.Data.Convert
import Deskwork.Step.Session

namespace Deskwork

open Deskwork.Number Deskwork.Text

/-! ## Names of keys -/

namespace Key

/-- Other words for keys. -/
def aliases : List (String × String) :=
  [("control", "ctrl"), ("return", "enter"), ("escape", "esc"), ("win", "cmd"),
    ("windows", "cmd"), ("super", "cmd"), ("option", "alt"), ("pageup", "page_up"),
    ("pagedown", "page_down"), ("del", "delete")]

/-- A name without blanks around it, in lower case, and no other word. -/
def tidy (name : String) : String :=
  let word := lower (trim name)
  (aliases.lookup word).getD word

end Key

/-- The key of a name. -/
def KeyDriver.keyOf (d : KeyDriver) (name : String) : Except Fault Key :=
  let word := Key.tidy name
  match d.special? word with
  | some key => .ok key
  | none =>
    match word.toList with
    | [c] => .ok (.character c)
    | _ => .error (.failed (.unknownKey name))

/-! ## Fields -/

/-- What is done with the keyboard. -/
inductive KeyboardMode where
  | typeText
  | pressKey
  | hotkey
  deriving DecidableEq, Repr

namespace KeyboardMode

/-- The word for a mode. -/
def word : KeyboardMode → String
  | .typeText => "type_text"
  | .pressKey => "press_key"
  | .hotkey => "hotkey"

/-- The modes in data. -/
def choice : Choice KeyboardMode :=
  ⟨"KeyboardActionType", [.typeText, .pressKey, .hotkey], fun m => .text m.word⟩

end KeyboardMode

/-- Keyboard input. -/
structure Keyboard where
  mode : KeyboardMode
  text : String
  key : String
  /-- The names of the keys to hold, when there is a list of them. -/
  modifiers : Option (List String)
  /-- The milliseconds between keys. -/
  delay : Int
  deriving DecidableEq, Repr

/-- A list of texts as data. -/
def textsValue : Option (List String) → Value
  | none => .null
  | some texts => .list (texts.map Value.text)

namespace Keyboard

/-- Keyboard input from the fields of its data. -/
def ofFields (fs : List (String × Value)) : Except Fault Keyboard := do
  let mode ← Convert.field fs "action_type" (Convert.choice KeyboardMode.choice) .typeText
  let text ← Convert.field fs "text" Convert.text ""
  let key ← Convert.field fs "key" Convert.text "enter"
  let modifiers ← Convert.field fs "modifiers" (Convert.listOf Convert.text) (some [])
  let delay ← Convert.field fs "delay_between_keys_ms" Convert.int 10
  return ⟨mode, text, key, modifiers, delay⟩

/-- The fields of keyboard input as data. -/
def fields (k : Keyboard) : List (String × Value) :=
  [("action_type", .text k.mode.word), ("text", .text k.text), ("key", .text k.key),
    ("modifiers", textsValue k.modifiers), ("delay_between_keys_ms", .int k.delay)]

/-- The name of keyboard input. -/
def name (k : Keyboard) : String :=
  if k.mode = .typeText then "Type text" else "Key input"

/-- The names of the keys to hold; there must be a list of them. -/
def held (k : Keyboard) : Except Fault (List String) :=
  match k.modifiers with
  | some names => .ok names
  | none => .error (.unsuitable .missingKeys)

/-- The names of keys that are pressed together. -/
def together (names : List String) (key : String) : String :=
  "+".intercalate (names ++ [key])

/-- The text that describes keyboard input. -/
def describe (k : Keyboard) : Except Fault String :=
  match k.mode with
  | .typeText => .ok ("Type \"" ++ k.text ++ "\"")
  | _ => k.held.map fun names => together names k.key

/-- There is a text to type, or a key to press. -/
def check (k : Keyboard) : Except Fault Unit :=
  if k.mode = .typeText then
    if k.text.isEmpty then .error (.invalid .noText) else .ok ()
  else if k.key.isEmpty then .error (.invalid .noKey)
  else .ok ()

/-- A template field overwritten. -/
def write (name : String) (c : Template.Content) (k : Keyboard) : Keyboard :=
  if name = "text" then { k with text := c.textOr k.text } else k

/-! ## Running -/

/-- A key goes down, unless the driver refuses to press it. -/
def sendDown (driver : KeyDriver) (key : Key) : StepM Unit :=
  match driver.pressFault? key with
  | some why => throw (.foreign why)
  | none => StepM.happen (.pressed key)

/-- A key goes up, unless the driver refuses to release it. -/
def sendUp (driver : KeyDriver) (key : Key) : StepM Unit :=
  match driver.releaseFault? key with
  | some why => throw (.foreign why)
  | none => StepM.happen (.released key)

/-- A key pressed and released. -/
def tap (driver : KeyDriver) (delay : Int) (c : Char) : StepM Unit := do
  sendDown driver (.character c)
  sendUp driver (.character c)
  StepM.sleepMillis delay

/-- The text typed key by key. -/
def typeByKeys (k : Keyboard) (machine : Machine) : StepM Unit := do
  match machine.input with
  | .missing => throw (.failed .noKeyboard)
  | .broken => throw (.foreign brokenInput)
  | .working =>
    k.text.toList.forM (tap machine.driver k.delay)
    StepM.sleep 0.1

/-- The pause between characters that the windowing system is told, in seconds. -/
def typingPause (k : Keyboard) : Except Fault Float :=
  ((ofInt? k.delay).mapError .conversion).map fun ms => ms / 1000.0

/-- The text typed: by the windowing system where there is one and it works, else key by key. -/
def typeText (k : Keyboard) : StepM Unit := do
  StepM.info ("type_text: " ++ k.text)
  let machine := (← get).desk.machine
  if machine.hasWindows then
    match k.typingPause with
    | .error f => throw f
    | .ok pause =>
      if machine.typing = .working then
        StepM.happen (.typed k.text (if 0.0 < pause then pause else 0.0))
        StepM.sleep 0.1
      else
        StepM.warn "pywinauto send_keys failed: pywinauto broken"
        k.typeByKeys machine
  else k.typeByKeys machine

/-- A key pressed and held. -/
def press (driver : KeyDriver) (key : Key) : StepM Unit := do
  sendDown driver key
  StepM.sleep 0.01

/-- A held key released. -/
def release (driver : KeyDriver) (key : Key) : StepM Unit := do
  sendUp driver key
  StepM.sleep 0.01

/-- A key pressed while others are held, which are released in reverse order. -/
def strike (driver : KeyDriver) (delay : Int) (held : List Key) (main : Key) : StepM Unit := do
  held.forM (press driver)
  sendDown driver main
  StepM.sleepMillis delay
  sendUp driver main
  held.reverse.forM (release driver)
  StepM.sleep 0.05

/-- The keys of some names. -/
def resolve (driver : KeyDriver) (names : List String) (key : String) :
    Except Fault (List Key × Key) := do
  let held ← names.mapM driver.keyOf
  return (held, ← driver.keyOf key)

/-- Keys pressed together. All names are resolved before the first key is pressed. -/
def pressKeys (k : Keyboard) (names : List String) : StepM Unit := do
  StepM.info ("key: " ++ together names k.key)
  let machine := (← get).desk.machine
  match machine.input with
  | .missing =>
    match machine.substitute.substituteFault with
    | some why => throw (.failed (.noHotkey why))
    | none => StepM.happen (.chord (names.map lower ++ [lower k.key]))
  | .broken => throw (.foreign brokenInput)
  | .working =>
    match resolve machine.driver names k.key with
    | .error f => throw f
    | .ok (held, main) => strike machine.driver k.delay held main

/-- The keyboard input sent. -/
def run (k : Keyboard) : StepM Unit := do
  match k.mode with
  | .typeText => k.typeText
  | .pressKey => k.pressKeys []
  | .hotkey =>
    match k.held with
    | .error f => throw f
    | .ok names => k.pressKeys names

end Keyboard

end Deskwork
