/-
# The Command Line

Either program of the command line, rehearsed: the files that its arguments name are read, the
program works on a copy of them, and what it prints is printed. Nothing outside is changed.
-/
import Deskwork.CommandLine.Programs
import Std.Time.DateTime.Timestamp

namespace Deskwork.CommandLine

open Deskwork.Files

/-! ## The copy -/

/-- The folder in which the copy is made. -/
def rehearsalPlace : Place := ["rehearsal"]

/-- A copy without files. -/
def emptyCopy : Tree := ⟨[(rehearsalPlace, .folder)], rehearsalPlace⟩

/-- The copy with a file of the given contents. -/
def withFile (t : Tree) (p : Path) (bytes : Text.Bytes) : Tree :=
  ((writeBytes (ensureFolder t p.parent).2 p bytes).toOption).getD t

/-- The files that the arguments name. -/
def namedFiles (arguments : List String) : List Path :=
  let asked := read arguments
  asked.target.toList ++ [asked.settings.getD Settings.standardPath]

/-- The scripts of the tasks in the target. -/
def namedScripts (arguments : List String) (m : Machine) : List Path :=
  match (read arguments).target.map fun p => (Schedule.Store.load m p).1 with
  | some (.ok tasks) => tasks.map fun t => Path.ofString t.scriptPath
  | _ => []

/-- The moment that lies some seconds after the beginning of the year 1970. -/
def momentSince1970 (seconds : Int) : Time.Moment :=
  let micros : Int := ((719162 * Time.dayMicros : Nat) : Int) + seconds * Time.secondMicros
  ((Time.Moment.ofMicros? micros none).toOption).getD .never

/-- How many turns the ticking thread takes before the program is interrupted. -/
def rehearsedTurns : Nat := 6

/-- The program that a word names. -/
def programNamed? (word : String) : Option (List String → Machine → Exit) :=
  match word with
  | "run_script" => some runScript
  | "run_scheduler" => some (runScheduler rehearsedTurns)
  | _ => none

/-! ## Input and output -/

/-- The copy with a file of the system; one that cannot be read is left out. -/
def copyFile (t : Tree) (p : Path) : IO Tree := do
  try
    let bytes ← IO.FS.readBinFile p.toString
    return withFile t p bytes.toList
  catch _ => return t

/-- A machine with copies of the files that the arguments name. -/
def rehearsalMachine (arguments : List String) : IO Machine := do
  let stamp ← Std.Time.Timestamp.now
  let moment := momentSince1970 stamp.toSecondsSinceUnixEpoch.val
  let files ← (namedFiles arguments).foldlM copyFile emptyCopy
  let scripts := namedScripts arguments (Machine.new files moment)
  return Machine.new (← scripts.foldlM copyFile files) moment

/-- The printed lines of a program. -/
def printLines (m : Machine) : IO Unit :=
  (m.eventsSince 0).forM fun e =>
    match e with
    | .printed line => IO.println line
    | _ => pure ()

/-- A program carried out: its lines are printed, and its exit code is the result. -/
def rehearse (program : List String → Machine → Exit) (arguments : List String) : IO UInt32 := do
  let (code, m) := program arguments (← rehearsalMachine arguments)
  printLines m
  match code with
  | .ok n => return n.toUInt32
  | .error f =>
    IO.eprintln (f.title ++ ": " ++ f.message)
    return failed.toUInt32

end Deskwork.CommandLine

open Deskwork.CommandLine in
/-- The first argument names the program, and the others are its arguments. -/
def main (arguments : List String) : IO UInt32 := do
  match arguments with
  | word :: rest =>
    match programNamed? word with
    | some program => rehearse program rest
    | none =>
      IO.eprintln ("Unknown program: " ++ word)
      return refused.toUInt32
  | [] =>
    IO.eprintln "Usage: (run_script | run_scheduler) <file.json> [--settings PATH]"
    return refused.toUInt32
