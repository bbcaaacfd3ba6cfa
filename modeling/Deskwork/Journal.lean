/-
# The Journal

What happened at the machine and to those who watch it, one event after the other: input that was
sent, programs that were started, requests, pauses, notifications and log entries.
-/
import Deskwork.Data.Value
import Deskwork.Number.Amount

namespace Deskwork

open Deskwork.Number

/-! ## Keys -/

/-- A key of the keyboard. -/
inductive Key where
  | special (name : String)
  | character (c : Char)
  deriving DecidableEq, Repr

/-- The text of a key. -/
def Key.text : Key → String
  | .special name => "Key." ++ name
  | .character c => c.toString

/-! ## Levels -/

/-- The importance of a log entry. -/
inductive Level where
  | debug
  | info
  | warning
  | error
  deriving DecidableEq, Repr

/-- The word for a level. -/
def Level.name : Level → String
  | .debug => "DEBUG"
  | .info => "INFO"
  | .warning => "WARNING"
  | .error => "ERROR"

/-- The order of the levels. -/
def Level.rank : Level → Nat
  | .debug => 10
  | .info => 20
  | .warning => 30
  | .error => 40

/-- The level that a word names. -/
def Level.ofName? (name : String) : Option Level :=
  [.debug, .info, .warning, .error].find? fun l => l.name == name

/-! ## Events -/

/-- Something that happened. -/
inductive Event where
  /-- A pause of the machine, in seconds. -/
  | slept (seconds : Amount)
  /-- A pause that someone else takes care of. -/
  | paused (seconds : Amount)
  | pressed (key : Key)
  | released (key : Key)
  | pointed (x y : Int)
  | clicked (button : String) (count : Nat)
  /-- A button was clicked some times at a place, by the substitute. -/
  | clickedAt (x y : Int) (count : Nat) (button : String)
  /-- Keys were pressed together, by the substitute. -/
  | chord (keys : List String)
  /-- A text was typed by the windowing system, with a pause after each character. -/
  | typed (text : String) (pause : Float)
  /-- A window of a process was looked for. -/
  | connected (process : Int) (timeout : Nat)
  | handled (title : Option String) (verb : String)
  | launched (arguments : List String)
  /-- A message is about to be sent. -/
  | posting (url : String) (timeout : Amount)
  | requested (verb contentType body : String)
  | closed (label : String)
  /-- The provider of custom variables was asked. -/
  | consulted
  | visited (label : String) (items : List String) (position : Int)
  | reset (label : String)
  /-- A step tried to run its engine again. -/
  | reentered (result running : Bool)
  /-- A step looked up the kind of another one. -/
  | lookedUp (kind : String)
  | executed (index : Int) (kind : String) (ok : Bool) (lastError : Option String)
      (bindings : List (String × Scalar)) (iteration : Option Int)
  | rerun (result : Bool)
  | completed (ok : Bool) (index : Int) (resources : List String)
  | ran (task : String)
  /-- Something was ordered while a task ran. -/
  | ordered (order : String) (reply : Value)
  | notified (task : String) (success : Bool) (error : Option String)
  | taskStarted (task name : String)
  | taskEnded (task name record : String) (success : Bool)
  | joined (thread : String)
  | waited (interval : Amount)
  | logged (level : Level) (source message : String)
  | heard (listener line : String)
  | printed (line : String)
  deriving Inhabited

/-- The event is a log entry. -/
def Event.isLogged : Event → Bool
  | .logged _ _ _ => true
  | _ => false

/-- The event is a printed line. -/
def Event.isPrinted : Event → Bool
  | .printed _ => true
  | _ => false

end Deskwork
