/-
# Conduct

Orders carried out by a scheduler, with an answer to each of them. While a task runs as planned,
further orders may be given, so that orders nest.
-/
import Deskwork.Files.Listing
import Deskwork.Schedule.Execution

namespace Deskwork.Schedule

open Deskwork.Number Deskwork.Time

/-- How an order is carried out. -/
abbrev Carry := Order → Scheduler → Except Fault Value × Scheduler

namespace Scheduler

/-! ## Planned runs -/

/-- Orders given one after the other while a task runs, up to the first fault. -/
def giveOrders (carry : Carry) : List Order → Scheduler → Except Fault Unit × Scheduler
  | [], s => (.ok (), s)
  | o :: rest, s =>
    match carry o s with
    | (.error f, s) => (.error f, s)
    | (.ok answer, s) => giveOrders carry rest (s.record (.ordered o.word answer))

/-- A run that goes as planned. -/
def runPlan (carry : Carry) (p : Plan) (s : Scheduler) : Except Fault Verdict × Scheduler :=
  match s.advance p.seconds with
  | (.error f, s) => (.error f, s)
  | (.ok _, s) =>
    match giveOrders carry p.orders s with
    | (.error f, s) => (.error f, s)
    | (.ok _, s) => (p.ending.mapError .ofForeign, s)

/-- The next plan, which repeats when it is the last. -/
def nextPlan (s : Scheduler) : List Plan → Plan × Scheduler
  | [] => (.smooth, s)
  | [p] => (p, s)
  | p :: rest => (p, { s with runner := .planned rest })

/-! ## Scripts -/

/-- A fresh engine for one script. -/
def engine (s : Scheduler) : Engine :=
  Engine.new s.desk [] false Engine.standardMaxSteps .none

/-- The script of a task loaded into a fresh engine and run once. -/
def runScript (t : Task) (s : Scheduler) : Except Fault Verdict × Scheduler :=
  match s.engine.load (Files.Path.ofString t.scriptPath) with
  | (.error f, e) => (.error f, { s with desk := e.desk })
  | (.ok _, e) =>
    let (r, e) := e.run none
    (r.map fun ok => (ok, e.firstError), { s with desk := e.desk })

/-- A task run by the runner of the scheduler. -/
def runWith (carry : Carry) : Run := fun t s =>
  match s.runner with
  | .scripts => runScript t s
  | .planned plans =>
    let (p, s) := s.nextPlan plans
    runPlan carry p (s.record (.ran t.id))

/-! ## Answers -/

/-- No answer. -/
def silent (r : Except Fault Unit × Scheduler) : Except Fault Value × Scheduler :=
  (r.1.map fun _ => .null, r.2)

/-- Texts as an answer. -/
def textsValue (texts : List String) : Value := .list (texts.map Value.text)

/-- A record as an answer. -/
def recordAnswer (r : Except Fault Record × Scheduler) : Except Fault Value × Scheduler :=
  (r.1.bind Record.toValue, r.2)

/-- A task that was handed in, given to an operation. -/
def withForm (s : Scheduler) (form : Form)
    (f : Task → Scheduler → Except Fault Value × Scheduler) : Except Fault Value × Scheduler :=
  let (r, m) := form.read s.desk.machine
  let s := s.withMachine m
  match r with
  | .error fault => (.error fault, s)
  | .ok t => f t s

/-- A listed task run. -/
def executeId (run : Run) (s : Scheduler) (id : String) : Except Fault Value × Scheduler :=
  match s.find? id, s.get? id with
  | some c, some t => recordAnswer (s.execute run c t)
  | _, _ => (.error (.noMember Value.null.typeName "id"), s)

/-- A task run that is on a card but not listed. -/
def executeLoose (run : Run) (t : Task) (s : Scheduler) : Except Fault Value × Scheduler :=
  let (c, s) := s.enter t
  recordAnswer (s.execute run c t)

/-- Whether a run of a listed task would be told about; a record is made for the question. -/
def askNotify (s : Scheduler) (id : String) (success : Bool) (now : Option Moment) :
    Except Fault Value × Scheduler :=
  let (_, m) := s.desk.machine.newId
  let s := s.withMachine m
  match s.get? id with
  | none => (.error (.noMember Value.null.typeName "notify_on_completion"), s)
  | some t => ((t.wantsNotice success (now.getD s.now)).map Value.bool, s)

/-- Waiting workers let run. -/
def finishAnswer (run : Run) (s : Scheduler) : Option Nat → Except Fault Value × Scheduler
  | none => (.ok .null, s.finishAll run)
  | some index =>
    let (found, s) := s.finishAt run index
    (.ok (if found then .null else .text "nothing pending"), s)

/-- Turns of the ticking thread, if one was ever started. -/
def loopAnswer (run : Run) (s : Scheduler) (count : Nat) (finishes : Bool) :
    Except Fault Value × Scheduler :=
  if s.ticker = .never then (.ok .null, s)
  else
    let (r, s) := turns run finishes count s
    (r.map fun alive => .text (if alive then "alive" else "done"), s)

/-! ## Orders -/

/-- An order carried out, where tasks are run in the given way. -/
def carryOut (run : Run) (o : Order) (s : Scheduler) : Except Fault Value × Scheduler :=
  match o with
  | .add form => s.withForm form fun t s => silent (s.add t)
  | .remove id =>
    let (found, s) := s.remove id
    (.ok (.bool found), s)
  | .update form => s.withForm form fun t s =>
    let (r, s) := s.update t
    (r.map Value.bool, s)
  | .get id => (.ok (((s.get? id).map Task.toFullValue).getD .null), s)
  | .clearTasks => (.ok .null, s.clearTasks)
  | .clearHistory => (.ok .null, s.clearHistory)
  | .history => ((s.history.records.mapM Record.toValue).map Value.list, s)
  | .taskHistory id => (.ok (textsValue ((s.history.latestFor id).map Record.id)), s)
  | .tick now =>
    let (r, s) := s.tick (now.getD s.now)
    (r.map textsValue, s)
  | .finish index => s.finishAnswer run index
  | .start =>
    let (r, s) := s.start
    (r.map Value.bool, s)
  | .stop => (.ok .null, s.stop)
  | .loop count finishes => s.loopAnswer run count finishes
  | .execute id => s.executeId run id
  | .executeLoose form => s.withForm form (executeLoose run)
  | .shouldNotify id success now => s.askNotify id success now
  | .advance seconds => silent (s.advance seconds)
  | .setClock now => (.ok .null, s.withMachine { s.desk.machine with wall := now })
  | .save path => silent (s.save path)
  | .load path =>
    let (r, s) := s.load path
    (r.map fun ts => textsValue (ts.map Task.id), s)
  | .files => (.ok s.desk.machine.files.listing, s)
  | .count => (.ok (.list [.int s.listed.length, .int s.history.records.length]), s)

/-- An order carried out, with orders nested up to a depth. -/
def carryWithin : Nat → Carry
  | 0 => fun _ s => (.error .tooDeep, s)
  | depth + 1 => carryOut (runWith (carryWithin depth))

/-- How deep orders may be nested. -/
def greatestDepth : Nat := 500

/-- An order carried out. -/
def perform (o : Order) (s : Scheduler) : Except Fault Value × Scheduler :=
  carryWithin greatestDepth o s

end Scheduler

end Deskwork.Schedule
