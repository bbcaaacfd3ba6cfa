/-
# The Machine

The machine on which scripts run: its files, its clocks, who uses it, which ways of input it has,
its windows, what the network answers, and the journal of what happened.
-/
import Deskwork.Machine.Drivers

namespace Deskwork

open Deskwork.Number

/-! ## Parts of the machine -/

/-- Whether a way of input can be used. -/
inductive Availability where
  | working
  | missing
  /-- It is installed but fails. -/
  | broken
  deriving DecidableEq, Repr

/-- The fault of a way of input that is installed but fails. -/
def brokenInput : Foreign := ⟨"RuntimeError", some "backend broken"⟩

/-- The fault of a substitute that cannot be used. -/
def Availability.substituteFault : Availability → Option Foreign
  | .working => none
  | .missing => some ⟨"ModuleNotFoundError", some "No module named 'pyautogui'"⟩
  | .broken => some ⟨"RuntimeError", some "pyautogui broken"⟩

/-- A window. -/
structure Window where
  title : Option String
  process : Int
  /-- The reading of the running clock from which on it is listed. -/
  since : Amount
  deriving DecidableEq

/-- What the network answers to a request. -/
inductive Reply where
  | answer (status : Int) (text : String)
  | failure (why : Foreign)
  deriving DecidableEq, Repr

/-- The machine. Keys and clicks are sent by the `input` with its `driver`, or else by the `substitute`;
a text may also be typed by the windowing system. -/
structure Machine where
  files : Files.Tree
  wall : Time.Moment
  /-- The running clock, in seconds; it never goes back. -/
  running : Float
  /-- What every lookup of the user's name answers. -/
  user : Except Foreign String
  computer : String
  hasWindows : Bool
  input : Availability
  driver : KeyDriver
  substitute : Availability
  typing : Availability
  windows : List Window
  missingPrograms : List String
  client : WebClient
  /-- The answers of the network; the last one repeats. -/
  replies : List Reply
  nextProcess : Int
  nextId : Nat
  /-- What happened, the latest first. -/
  journal : List Event

namespace Machine

/-- A machine with files and a wall clock, on which everything works and nothing has happened. -/
def new (files : Files.Tree) (wall : Time.Moment) : Machine where
  files := files
  wall := wall
  running := 0.0
  user := .ok "alice"
  computer := "desk-1"
  hasWindows := false
  input := .working
  driver := .common
  substitute := .working
  typing := .working
  windows := []
  missingPrograms := []
  client := .common
  replies := []
  nextProcess := 1001
  nextId := 1
  journal := []

/-- The machine after an event. -/
def record (m : Machine) (e : Event) : Machine :=
  { m with journal := e :: m.journal }

/-- What happened since the journal had `count` events, in order. -/
def eventsSince (m : Machine) (count : Nat) : List Event :=
  (m.journal.take (m.journal.length - count)).reverse

/-- A new identifier. -/
def newId (m : Machine) : String × Machine :=
  ("uuid-" ++ toString m.nextId, { m with nextId := m.nextId + 1 })

/-! ## Pauses -/

/-- A pause longer than this many seconds is not sat out. -/
def longestPause : Nat := 1000000000

/-- The microseconds of an amount of seconds. -/
def microsOf : Amount → Except Fault Int
  | .whole n => .ok (n * Time.secondMicros)
  | .real x =>
    match exactValue x with
    | .nan => .error (.conversion .notANumber)
    | .infinite _ => .error (.conversion .infinite)
    | .finite _ => .ok (Time.microsOfSeconds x)

/-- Both clocks moved by some seconds. -/
def advance (m : Machine) (seconds : Amount) : Except Fault Machine := do
  let span ← (Time.checkSpan (← microsOf seconds)).mapError .time
  let wall ← (m.wall.shift span).mapError .time
  .ok { m with wall := wall, running := m.running + seconds.toFloat }

/-- A pause: both clocks go on, unless it is too long. -/
def sleep (m : Machine) (seconds : Amount) : Except Fault Unit × Machine :=
  let m := m.record (.slept seconds)
  if seconds.exceeds longestPause then (.ok (), m)
  else
    match m.advance seconds with
    | .ok m' => (.ok (), m')
    | .error f => (.error f, m)

/-! ## The network -/

/-- The next answer of the network, which repeats when it is the last. -/
def nextReply (m : Machine) : Reply × Machine :=
  match m.replies with
  | [] => (.answer 200 "ok", m)
  | [r] => (r, m)
  | r :: rest => (r, { m with replies := rest })

end Machine

end Deskwork
