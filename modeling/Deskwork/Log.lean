/-
# The Log

Log entries with a level, a source and a time; the log keeps the latest ones up to its capacity and
tells every entry that it accepts to its listeners.
-/
import Deskwork.Machine.Basic
import Deskwork.Time.Iso

namespace Deskwork

/-! ## Entries -/

/-- An entry of the log. -/
structure LogEntry where
  moment : Time.Moment
  message : String
  level : Level
  /-- Who says it; an empty source is not shown. -/
  source : String
  deriving DecidableEq

/-- An entry after its time: level, source and message. -/
def LogEntry.body (e : LogEntry) : String :=
  e.level.name ++ ": " ++ (if e.source.isEmpty then "" else e.source ++ ": ") ++ e.message

/-- An entry as a line. -/
def LogEntry.line (e : LogEntry) : String :=
  "[" ++ e.moment.clock ":" ++ "] " ++ e.body

/-- An entry as a line with its date. -/
def LogEntry.datedLine (e : LogEntry) : String :=
  "[" ++ e.moment.shortDate "-" ++ " " ++ e.moment.clock ":" ++ "] " ++ e.body

/-! ## Listeners -/

/-- What a listener does with an entry. -/
inductive Manner where
  | hear
  /-- It takes note and fails. -/
  | fail
  /-- It takes note and logs the entry again, unless that is an echo itself. -/
  | echo
  /-- It takes note and listens no longer. -/
  | leave
  | print
  deriving DecidableEq, Repr

/-- A listener. -/
structure Listener where
  name : String
  manner : Manner
  deriving DecidableEq, Repr

/-! ## The log -/

/-- The level from which on entries are accepted. -/
inductive Threshold where
  | level (l : Level)
  | unknown (name : String)
  deriving DecidableEq, Repr

/-- The threshold that a word names. -/
def Threshold.ofName (name : String) : Threshold :=
  match Level.ofName? name with
  | some l => .level l
  | none => .unknown name

/-- A log. -/
structure StatusLog where
  /-- How many entries are kept; zero keeps all. -/
  capacity : Int
  threshold : Threshold
  /-- The entries, the oldest first. -/
  entries : List LogEntry
  status : String
  /-- The listeners, in the order in which they are told. -/
  listeners : List Listener
  deriving DecidableEq

/-- The last `count` of some items. Zero gives all, and a negative count leaves out that many at the
front. -/
def lastItems {α : Type} (count : Int) (items : List α) : List α :=
  if 0 < count then items.drop (items.length - count.toNat) else items.drop (-count).toNat

/-- A positive count gives the items from the end. -/
theorem lastItems_of_pos {α : Type} {count : Int} (h : 0 < count) (items : List α) :
    lastItems count items = items.drop (items.length - count.toNat) := by
  simp [lastItems, h]

namespace StatusLog

/-- A log without entries. -/
def new (capacity : Int) (threshold : Threshold) : StatusLog :=
  ⟨capacity, threshold, [], "Ready", []⟩

/-- A log as it is made when nothing else is said. -/
def standard : StatusLog := new 500 (.level .debug)

/-- A level reaches the threshold; no level reaches an unknown one. -/
def accepts (log : StatusLog) (l : Level) : Bool :=
  match log.threshold with
  | .level t => t.rank ≤ l.rank
  | .unknown _ => false

/-- The log can be written to: its threshold is a level. -/
def ready (log : StatusLog) : Except Fault Unit :=
  match log.threshold with
  | .level _ => .ok ()
  | .unknown name => .error (.unknownLevel name)

/-- The entries with another one, of which those beyond the capacity are dropped at the front. -/
def keep (capacity : Int) (entries : List LogEntry) (e : LogEntry) : List LogEntry :=
  let all := entries ++ [e]
  if capacity < all.length then lastItems capacity all else all

/-- The latest entries. -/
def recent (log : StatusLog) (count : Int) : List LogEntry :=
  lastItems count log.entries

/-- The log with another listener. -/
def listen (log : StatusLog) (l : Listener) : StatusLog :=
  { log with listeners := log.listeners ++ [l] }

/-- The log without the first listener of a name. -/
def unlisten (log : StatusLog) (name : String) : StatusLog :=
  { log with listeners := log.listeners.eraseP fun l => l.name == name }

end StatusLog

end Deskwork
