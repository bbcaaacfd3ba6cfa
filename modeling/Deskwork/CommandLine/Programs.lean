/-
# Programs

The two programs of the command line: one runs a script once, the other one runs the scheduler until
it is interrupted. Both print the log.
-/
import Deskwork.CommandLine.Arguments
import Deskwork.Schedule.Conduct

namespace Deskwork.CommandLine

open Deskwork.Files Deskwork.Schedule

/-! ## Common to both -/

/-- The exit code of a program that did what it was asked to. -/
def succeeded : Nat := 0

/-- The exit code of a script that failed. -/
def failed : Nat := 1

/-- The exit code of a program that could not begin. -/
def refused : Nat := 2

/-- What a program leaves behind: its exit code, or a fault that nobody expects, and the machine. -/
abbrev Exit := Except Fault Nat × Machine

/-- A line printed. -/
def printLine (m : Machine) (line : String) : Machine := m.record (.printed line)

/-- The listener that prints every entry. -/
def printer : Listener := ⟨"print", .print⟩

/-- The surroundings of a program with the given preferences, which are in the file at `path`. -/
def deskFor (m : Machine) (path : Path) (settings : Settings) : Desk :=
  { machine := m
    log := (StatusLog.new settings.maxLogEntries (.level .debug)).listen printer
    expander := .new (.settings path) true }

/-- A program with a target: the preferences are loaded, and `body` goes on. Without a target it
says how it is used. -/
def withTarget (arguments : List String) (usage : String) (m : Machine)
    (body : Path → Settings → Desk → Exit) : Exit :=
  let asked := read arguments
  match asked.target with
  | none => (.ok refused, printLine m usage)
  | some target =>
    let path := asked.settings.getD Settings.standardPath
    let (r, files) := Settings.load m.files path
    let m := { m with files := files }
    match r with
    | .error f => (.error f, m)
    | .ok settings => body target settings (deskFor m path settings)

/-! ## Running a script -/

/-- How the program that runs a script is used. -/
def scriptUsage : String := "Usage: run_script.py <script.json> [--settings PATH]"

/-- A script loaded and run once. -/
def scriptBody (target : Path) (_ : Settings) (d : Desk) : Exit :=
  match (Engine.new d [] false Engine.standardMaxSteps .report).load target with
  | (.error f, e) =>
    if f.isScript then
      (.ok refused, printLine e.desk.machine ("Failed to load script: " ++ f.message))
    else (.error f, e.desk.machine)
  | (.ok _, e) =>
    let (r, e) := e.run none
    (r.map fun ok => if ok then succeeded else failed, e.desk.machine)

/-- The program that runs a script. -/
def runScript (arguments : List String) (m : Machine) : Exit :=
  withTarget arguments scriptUsage m scriptBody

/-! ## Running the scheduler -/

/-- How the program that runs the scheduler is used. -/
def schedulerUsage : String := "Usage: run_scheduler.py <tasks.json> [--settings PATH]"

/-- A listed task in one line. -/
def taskLine (t : Task) : String :=
  "  " ++ t.name ++ ": " ++ t.describe ++ " -> next " ++ (t.nextRun.map Time.Moment.plain).getD "None"

/-- A scheduler with the given preferences. -/
def schedulerFor (settings : Settings) (d : Desk) : Except Fault Scheduler :=
  Scheduler.new d .scripts (.notifier (.standard settings.webhookUrl)) .none settings.checkInterval
    settings.maxHistory

/-- The ticking thread takes some turns, if any, before the program is interrupted. -/
def playTurns (turns : Nat) (s : Scheduler) : Except Fault Unit × Scheduler :=
  if turns = 0 then (.ok (), s)
  else
    let run := Scheduler.runWith (Scheduler.carryWithin Scheduler.greatestDepth)
    let (r, s) := Scheduler.turns run true turns s
    (r.map fun _ => (), s)

/-- A scheduler with its tasks started, and stopped when the program is interrupted. -/
def foreground (turns : Nat) (s : Scheduler) : Exit :=
  match s.start with
  | (.error f, s) => (.error f, s.desk.machine)
  | (.ok _, s) =>
    match playTurns turns s with
    | (.error f, s) => (.error f, s.stop.desk.machine)
    | (.ok _, s) =>
      (.ok succeeded, (s.record (.printed "Stopping scheduler...")).stop.desk.machine)

/-- The tasks of a file loaded, listed and run. -/
def schedulerBody (turns : Nat) (target : Path) (settings : Settings) (d : Desk) : Exit :=
  match schedulerFor settings d with
  | .error f => (.error f, d.machine)
  | .ok s =>
    match s.load target.toString with
    | (.error f, s) =>
      if f.isStore then
        (.ok refused, printLine s.desk.machine ("Failed to load tasks: " ++ f.message))
      else (.error f, s.desk.machine)
    | (.ok _, s) =>
      foreground turns (s.withMachine ((s.tasks.map taskLine).foldl printLine s.desk.machine))

/-- The program that runs the scheduler; it is interrupted after the ticking thread has taken some
turns. -/
def runScheduler (turns : Nat) (arguments : List String) (m : Machine) : Exit :=
  withTarget arguments schedulerUsage m (schedulerBody turns)

end Deskwork.CommandLine
