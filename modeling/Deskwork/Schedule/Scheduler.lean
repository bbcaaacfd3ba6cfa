/-
# The Scheduler

The scheduler keeps a list of tasks, starts those that are due, and keeps the records of their runs.
Every task that was ever handed in stays on its card, since a run may still refer to it; the list
names cards.
-/
import Deskwork.Schedule.History
import Deskwork.Schedule.Order
import Deskwork.Schedule.Store
import Deskwork.Schedule.Timing

namespace Deskwork.Schedule

open Deskwork.Number Deskwork.Time

/-- The thread that looks for due tasks. -/
inductive Ticker where
  | never
  | alive
  | ended
  deriving DecidableEq, Repr

/-- The number of a card. -/
abbrev Card := Nat

/-- A scheduler: the tasks that were handed in, those of them that are listed, the runs that are waited
for and remembered, and a thread that starts the due ones. -/
structure Scheduler where
  desk : Desk
  /-- Each task that was handed in, also when it is no longer listed. -/
  cards : List Task
  listed : List Card
  inFlight : List String
  /-- The cards of the workers that were started and have not run yet. -/
  waiting : List Card
  history : History
  /-- The seconds between two looks at the tasks. -/
  interval : Amount
  runner : Runner
  messenger : Messenger
  watcher : Watcher
  running : Bool
  stopping : Bool
  ticker : Ticker
  /-- The scheduler still refers to the thread that was started last. -/
  attached : Bool

namespace Scheduler

/-- A scheduler without tasks. -/
def new (desk : Desk) (runner : Runner) (messenger : Messenger) (watcher : Watcher)
    (interval : Amount) (maxHistory : Int) : Except Fault Scheduler :=
  (History.new maxHistory).map fun history => {
    desk := desk, cards := [], listed := [], inFlight := [], waiting := [], history := history
    interval := interval, runner := runner, messenger := messenger, watcher := watcher
    running := false, stopping := false, ticker := .never, attached := false }

/-- The seconds between two looks at the tasks when nothing else is said. -/
def standardInterval : Amount := .real 10.0

/-! ## Surroundings -/

/-- The source of the entries of the scheduler. -/
def source : String := "Scheduler"

/-- The present moment. -/
def now (s : Scheduler) : Moment := s.desk.machine.wall

/-- The scheduler on another machine. -/
def withMachine (s : Scheduler) (m : Machine) : Scheduler :=
  { s with desk := { s.desk with machine := m } }

/-- An event. -/
def record (s : Scheduler) (e : Event) : Scheduler :=
  { s with desk := s.desk.record e }

/-- An informational entry. -/
def info (s : Scheduler) (message : String) : Scheduler :=
  { s with desk := s.desk.info source message }

/-- A warning. -/
def warn (s : Scheduler) (message : String) : Scheduler :=
  { s with desk := s.desk.warn source message }

/-- An error entry. -/
def error (s : Scheduler) (message : String) : Scheduler :=
  { s with desk := s.desk.error source message }

/-- The status changed. -/
def updateStatus (s : Scheduler) (status : String) : Scheduler :=
  { s with desk := s.desk.updateStatus status source }

/-- Time passes: both clocks go on. -/
def advance (s : Scheduler) (seconds : Amount) : Except Fault Unit × Scheduler :=
  match s.desk.machine.advance seconds with
  | .ok m => (.ok (), s.withMachine m)
  | .error f => (.error f, s)

/-! ## Cards -/

/-- The task on a card. -/
def task? (s : Scheduler) (c : Card) : Option Task := s.cards[c]?

/-- The listed tasks. -/
def tasks (s : Scheduler) : List Task := s.listed.filterMap s.task?

/-- The first listed card whose task has an identifier. -/
def find? (s : Scheduler) (id : String) : Option Card :=
  s.listed.find? fun c => (s.task? c).any fun t => t.id == id

/-- The first listed task with an identifier. -/
def get? (s : Scheduler) (id : String) : Option Task :=
  (s.find? id).bind s.task?

/-- A task on a new card, which is not listed. -/
def enter (s : Scheduler) (t : Task) : Card × Scheduler :=
  (s.cards.length, { s with cards := s.cards ++ [t] })

/-- The task on a card changed. -/
def modify (s : Scheduler) (c : Card) (f : Task → Task) : Scheduler :=
  { s with cards := s.cards.modify c f }

/-- The next run of the task on a card planned. -/
def plan (s : Scheduler) (c : Card) (now : Moment) : Except Fault Unit × Scheduler :=
  match s.task? c with
  | none => (.ok (), s)
  | some t =>
    match t.planned now with
    | .ok t => (.ok (), s.modify c fun _ => t)
    | .error f => (.error f, s)

/-- The next runs of the tasks on some cards planned, one after the other. -/
def planAll (now : Moment) : List Card → Scheduler → Except Fault Unit × Scheduler
  | [], s => (.ok (), s)
  | c :: rest, s =>
    match s.plan c now with
    | (.ok _, s) => planAll now rest s
    | (.error f, s) => (.error f, s)

/-! ## The list of tasks -/

/-- A task taken on. -/
def add (s : Scheduler) (t : Task) : Except Fault Unit × Scheduler :=
  match t.planned s.now with
  | .error f => (.error f, s)
  | .ok t =>
    let (c, s) := s.enter t
    (.ok (), { s with listed := s.listed ++ [c] }.info
      ("Task added: " ++ t.name ++ " (" ++ t.describe ++ ")"))

/-- The first task with an identifier dropped; the result tells whether there was one. -/
def remove (s : Scheduler) (id : String) : Bool × Scheduler :=
  match s.find? id with
  | none => (false, s)
  | some c =>
    (true, { s with listed := s.listed.erase c }.info
      ("Task removed: " ++ ((s.task? c).map Task.name).getD ""))

/-- A task that takes over from another one: the moments that it does not bring along are those of
the other one. -/
def takeOver (t other : Task) : Task :=
  { t with
    lastRun := t.lastRun.or other.lastRun
    lastNotified := t.lastNotified.or other.lastNotified }

/-- A task in the place of the first one with its identifier; the result tells whether there was
one. -/
def update (s : Scheduler) (t : Task) : Except Fault Bool × Scheduler :=
  match s.find? t.id with
  | none => (.ok false, s)
  | some old =>
    match (((s.task? old).map (takeOver t)).getD t).planned s.now with
    | .error f => (.error f, s)
    | .ok t =>
      let (c, s) := s.enter t
      (.ok true, { s with listed := s.listed.map fun k => if k = old then c else k }.info
        ("Task updated: " ++ t.name))

/-- All tasks dropped. -/
def clearTasks (s : Scheduler) : Scheduler := { s with listed := [] }

/-- All records forgotten. -/
def clearHistory (s : Scheduler) : Scheduler := { s with history := s.history.clear }

/-! ## The file of tasks -/

/-- A number of tasks in words. -/
def countText (n : Nat) : String := toString n ++ " task(s)"

/-- The tasks saved in a file. -/
def save (s : Scheduler) (path : String) : Except Fault Unit × Scheduler :=
  let (r, m) := Store.save s.desk.machine (Files.Path.ofString path) s.tasks
  let s := s.withMachine m
  match r with
  | .error f => (.error f, s)
  | .ok _ => (.ok (), s.info ("Saved " ++ countText s.tasks.length ++ " to " ++ path))

/-- The tasks of a file in place of the listed ones. -/
def load (s : Scheduler) (path : String) : Except Fault (List Task) × Scheduler :=
  let (r, m) := Store.load s.desk.machine (Files.Path.ofString path)
  let s := s.withMachine m
  match r.bind fun ts => ts.mapM fun t => t.planned s.now with
  | .error f => (.error f, s)
  | .ok ts =>
    (.ok ts, { s with
      cards := s.cards ++ ts
      listed := List.range' s.cards.length ts.length }.info
      ("Loaded " ++ countText ts.length ++ " from " ++ path))

/-! ## Starting and stopping -/

/-- The ticking thread started, unless it runs already; all next runs are planned anew. -/
def start (s : Scheduler) : Except Fault Bool × Scheduler :=
  if s.running then (.ok false, s.warn "Scheduler is already running")
  else
    match planAll s.now s.listed s with
    | (.error f, s) => (.error f, s)
    | (.ok _, s) =>
      (.ok true,
        { s with running := true, stopping := false, ticker := .alive, attached := true }.updateStatus
          ("Scheduler started (every " ++ s.interval.general ++ "s)"))

/-- The name of the ticking thread. -/
def tickerName : String := "scheduler-tick"

/-- The ticking thread waited for, when it is alive. -/
def join (s : Scheduler) : Scheduler :=
  if s.attached && s.ticker = .alive then s.record (.joined tickerName) else s

/-- The ticking thread asked to end. -/
def stop (s : Scheduler) : Scheduler :=
  if s.running then
    { ({ s with running := false, stopping := true }).join with attached := false }.updateStatus
      "Scheduler stopped"
  else s

/-! ## Due tasks -/

/-- The task on a card is due and not being run. -/
def isReady (s : Scheduler) (now : Moment) (c : Card) : Except Fault Bool :=
  match s.task? c with
  | none => .ok false
  | some t => (t.isDue now).map fun due => due && !s.inFlight.contains t.id

/-- The cards among some whose tasks are due and not being run. -/
def readyAmong (s : Scheduler) (now : Moment) : List Card → Except Fault (List Card)
  | [] => .ok []
  | c :: rest => do
    let ready ← s.isReady now c
    let others ← s.readyAmong now rest
    return if ready then c :: others else others

/-- The identifier of a task whose worker was started; no identifier is kept twice. -/
def occupy (ids : List String) (id : String) : List String :=
  if ids.contains id then ids else ids ++ [id]

/-- The name of the thread of a worker. -/
def workerName (t : Task) : String := "task-" ++ t.name

/-- A worker started for the task on a card; it waits for its turn. -/
def launch (s : Scheduler) (c : Card) (t : Task) : Scheduler :=
  let s := s.info ("Task due: " ++ t.name)
  { s with waiting := s.waiting ++ [c] }

/-- The due tasks started, each by a worker of its own; the result names the workers. -/
def tick (s : Scheduler) (now : Moment) : Except Fault (List String) × Scheduler :=
  match s.readyAmong now s.listed with
  | .error f => (.error f, s)
  | .ok ready =>
    let due := ready.filterMap fun c => (s.task? c).map fun t => (c, t)
    let s := { s with inFlight := due.foldl (fun ids d => occupy ids d.2.id) s.inFlight }
    (.ok (due.map fun d => workerName d.2), due.foldl (fun s d => s.launch d.1 d.2) s)

end Scheduler

end Deskwork.Schedule
