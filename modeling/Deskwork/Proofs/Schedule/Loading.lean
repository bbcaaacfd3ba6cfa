/-
# Loading the Tasks of a File

What becomes of a file that is loaded as the tasks of a scheduler, whatever it holds. The entries are
read in turn (`Store.readTasks_answers`, `Store.forall₂_of_readTasks`), and each task is planned anew. A
file is refused with the first entry that cannot be read, and then the scheduler keeps its tasks and
its records. There are two ways to fail without being refused: an infinity stands in a field for a
whole number, or the next run of a task cannot be told. The main statement is
`Scheduler.load_listed_or_refused_iff`.
-/
import Deskwork.Proofs.Schedule.Entries
import Deskwork.Proofs.Schedule.Foresight
import Deskwork.Proofs.Schedule.Spacing

namespace Deskwork

open Deskwork.Files Deskwork.Time

/-! ## New identifiers -/

/-- A machine is the same up to the number of the next identifier. -/
def Machine.Renumbered (m m' : Machine) : Prop := ∃ n, m' = { m with nextId := n }

namespace Machine.Renumbered

variable {m m' m'' : Machine}

theorem refl (m : Machine) : m.Renumbered m := ⟨m.nextId, rfl⟩

theorem trans (h : m.Renumbered m') (h' : m'.Renumbered m'') : m.Renumbered m'' := by
  obtain ⟨n, rfl⟩ := h
  obtain ⟨n', rfl⟩ := h'
  exact ⟨n', rfl⟩

/-- The clock shows the same moment. -/
theorem wall (h : m.Renumbered m') : m'.wall = m.wall := by
  obtain ⟨n, rfl⟩ := h
  rfl

end Machine.Renumbered

namespace Schedule

/-! ## Entries -/

namespace Task

/-- A task without an identifier is given a new one, and nothing else happens. -/
theorem renumbered_ofFields (fields : Fields) (m : Machine) :
    m.Renumbered (ofFields fields m).2 := by
  unfold ofFields
  cases readDays fields with
  | error f => exact .refl m
  | ok days =>
    show m.Renumbered (readId fields m).2
    unfold readId
    split
    · exact .refl m
    · exact ⟨m.nextId + 1, rfl⟩

/-- A task whose next run cannot be told has a fault of times. -/
theorem time_of_nextRunAt {t : Task} {now : Moment} {f : Fault} (h : t.nextRunAt now = .error f) :
    ∃ why, f = .time why := by
  have times {r : Except Time.Fault Moment} (failed : (r.map some).mapError Fault.time = .error f) :
      ∃ why, f = .time why := by
    cases r with
    | ok next => cases failed
    | error why =>
      cases failed
      exact ⟨why, rfl⟩
  unfold nextRunAt at h
  split at h
  · split at h
    · exact times h
    · exact times h
    · exact times h
  · cases h

/-- The fault of a task that cannot be planned is that of its next run. -/
theorem planned_eq_error_iff {t : Task} {now : Moment} {f : Fault} :
    t.planned now = .error f ↔ t.nextRunAt now = .error f := by
  unfold Task.planned
  cases t.nextRunAt now <;> simp [Except.map]

/-- Tasks can be planned when all of their next runs can be told. -/
theorem exists_mapM_planned_iff {ts : List Task} {now : Moment} :
    (∃ planned, ts.mapM (·.planned now) = .ok planned) ↔ ∀ t ∈ ts, t.Foreseeable now := by
  constructor
  · rintro ⟨planned, made⟩
    have each : List.Forall₂ (fun t p => t.Foreseeable now ∧ t.planned now = .ok p) ts planned := by
      apply (mapM_eq_ok_iff.mp made).imp
      intro t p made
      obtain ⟨next, told, -⟩ := planned_eq_ok_iff.mp made
      exact ⟨exists_nextRunAt_iff.mp ⟨next, told⟩, made⟩
    exact ((List.forall₂_and_left ts planned).mp each).1
  · intro foreseeable
    cases made : ts.mapM (·.planned now) with
    | ok planned => exact ⟨planned, rfl⟩
    | error f =>
      obtain ⟨t, mem, failed⟩ := exists_of_mapM_eq_error made
      obtain ⟨next, told⟩ := exists_nextRunAt_iff.mpr (foreseeable t mem)
      rw [planned_eq_error_iff, told] at failed
      cases failed

end Task

namespace Store

/-- The answer of an entry to what is demanded of a task. -/
def entryResponse : Value → Response
  | .object fields => Task.response fields
  | _ => .unfit

/-- A task belongs to an entry: the entry is an object, and its fields are read as the task. -/
def Belongs (m : Machine) (v : Value) (t : Task) : Prop :=
  ∃ fields m', v = .object fields ∧ m.Renumbered m' ∧ (Task.ofFields fields m').1 = .ok t

/-- The faults of a field make a file of tasks unreadable, an overflow is passed on. -/
theorem wrap_answers {α : Type} {r : Except Fault α} {q : Response}
    (h : AnswersBy Fault.isEntry r q) (index : Nat) :
    AnswersBy Fault.isStore (r.mapError (wrap index)) q := by
  cases h with
  | meets a => exact .meets a
  | boundless => exact .boundless
  | @unfit f entry =>
    have wrapped : wrap index f = .badTask index f := if_pos entry
    exact .unfit (by rw [wrapped]; rfl)

variable {m : Machine}

/-- The answer of one entry decides about its task. -/
theorem readTask_answers (index : Nat) (v : Value) (m : Machine) :
    AnswersBy Fault.isStore (readTask index v m).1 (entryResponse v) := by
  cases v with
  | object fields => exact wrap_answers (Task.ofFields_answers fields m) index
  | scalar s => exact .unfit rfl
  | list items => exact .unfit rfl

theorem renumbered_readTask (index : Nat) (v : Value) (m : Machine) :
    m.Renumbered (readTask index v m).2 := by
  cases v with
  | object fields => exact Task.renumbered_ofFields fields m
  | scalar s => exact .refl m
  | list items => exact .refl m

/-- The task of an entry belongs to it. -/
theorem belongs_of_readTask {index : Nat} {v : Value} {t : Task}
    (h : (readTask index v m).1 = .ok t) : Belongs m v t := by
  cases v with
  | object fields => exact ⟨fields, m, rfl, .refl m, mapError_eq_ok_iff.mp h⟩
  | scalar s => cases h
  | list items => cases h

/-- One entry is read after the other. -/
theorem readTasks_cons (index : Nat) (v : Value) (rest : List Value) (m : Machine) :
    (readTasks index (v :: rest) m).1
      = (readTask index v m).1 >>= fun t =>
          (t :: ·) <$> (readTasks (index + 1) rest (readTask index v m).2).1 := by
  rw [readTasks]
  cases readTask index v m with
  | mk r m' => cases r <;> rfl

/-- The entries are read in order, up to the first that does not answer what is demanded. -/
theorem readTasks_answers (index : Nat) (entries : List Value) (m : Machine) :
    AnswersBy Fault.isStore (readTasks index entries m).1
      (.first (entries.map entryResponse)) := by
  induction entries generalizing index m with
  | nil => exact .meets []
  | cons v entries ih =>
    rw [readTasks_cons]
    apply (readTask_answers index v m).bind
    intro t
    exact (ih (index + 1) _).map (t :: ·)

theorem renumbered_readTasks (index : Nat) (entries : List Value) (m : Machine) :
    m.Renumbered (readTasks index entries m).2 := by
  induction entries generalizing index m with
  | nil => exact .refl m
  | cons v entries ih =>
    have first := renumbered_readTask index v m
    rw [readTasks]
    cases read : readTask index v m with
    | mk r m' =>
      rw [read] at first
      cases r with
      | error f => exact first
      | ok t => exact first.trans (ih (index + 1) m')

/-- There is one task for each entry, in order. -/
theorem forall₂_of_readTasks {index : Nat} {entries : List Value} {ts : List Task}
    (h : (readTasks index entries m).1 = .ok ts) {m₀ : Machine} (before : m₀.Renumbered m) :
    List.Forall₂ (Belongs m₀) entries ts := by
  induction entries generalizing index m ts with
  | nil =>
    cases h
    exact .nil
  | cons v entries ih =>
    rw [readTasks_cons] at h
    obtain ⟨t, first, h⟩ := bind_eq_ok_iff.mp h
    obtain ⟨others, rest, rfl⟩ := map_eq_ok_iff.mp h
    obtain ⟨fields, m', object, after, read⟩ := belongs_of_readTask first
    apply List.Forall₂.cons
    · exact ⟨fields, m', object, before.trans after, read⟩
    · exact ih rest (before.trans (renumbered_readTask index v m))

/-! ## Files -/

/-- The answer of the contents of a file to what is demanded of a list of tasks. -/
def fileResponse (t : Tree) (p : Path) : Response :=
  match readValue t p with
  | .ok (.list entries) => .first (entries.map entryResponse)
  | _ => .unfit

/-- The tasks of a file are read exactly when its contents answer what is demanded. -/
theorem load_answers {p : Path} (there : exists? m.files p = .ok true) :
    AnswersBy Fault.isStore (load m p).1 (fileResponse m.files p) := by
  simp only [load, there, fileResponse]
  cases readValue m.files p with
  | error why => exact .unfit rfl
  | ok v =>
    cases v with
    | list entries => exact readTasks_answers 1 entries m
    | scalar s => exact .unfit rfl
    | object fields => exact .unfit rfl

theorem renumbered_load (m : Machine) (p : Path) : m.Renumbered (load m p).2 := by
  unfold load
  split
  · exact .refl m
  · exact .refl m
  · split
    · exact .refl m
    · exact renumbered_readTasks 1 _ m
    · exact .refl m

/-- The tasks that are read belong to the entries of the file. -/
theorem forall₂_of_load {p : Path} (there : exists? m.files p = .ok true) {ts : List Task}
    (h : (load m p).1 = .ok ts) :
    ∃ entries, readValue m.files p = .ok (.list entries) ∧ List.Forall₂ (Belongs m) entries ts := by
  simp only [load, there] at h
  cases read : readValue m.files p with
  | error why =>
    rw [read] at h
    cases h
  | ok v =>
    rw [read] at h
    cases v with
    | list entries => exact ⟨entries, rfl, forall₂_of_readTasks h (.refl m)⟩
    | scalar s => cases h
    | object fields => cases h

end Store

/-! ## The scheduler -/

namespace Scheduler

/-- New cards, numbered on from those before, hold what is entered on them. -/
theorem filterMap_entered {α : Type} (before entered : List α) :
    (List.range' before.length entered.length).filterMap (fun c => (before ++ entered)[c]?)
      = entered := by
  induction entered generalizing before with
  | nil => rfl
  | cons a entered ih =>
    have here : (before ++ a :: entered)[before.length]? = some a := by simp
    have others := ih (before ++ [a])
    rw [List.append_assoc, List.singleton_append, List.length_append, List.length_singleton] at others
    rw [List.length_cons, List.range'_succ, List.filterMap_cons_some here, others]

section Load

variable {s : Scheduler} {path : String}

/-- A scheduler keeps everything when the tasks of a file cannot be read. -/
theorem load_of_unread {f : Fault} {m : Machine}
    (h : Store.load s.desk.machine (Path.ofString path) = (.error f, m)) :
    s.load path = (.error f, s.withMachine m) := by
  simp only [load, h]
  rfl

/-- A scheduler keeps everything when the tasks that are read cannot be planned. -/
theorem load_of_unplanned {f : Fault} {m : Machine} {ts : List Task}
    (h : Store.load s.desk.machine (Path.ofString path) = (.ok ts, m)) (wall : m.wall = s.now)
    (failed : ts.mapM (·.planned s.now) = .error f) :
    s.load path = (.error f, s.withMachine m) := by
  have now : (s.withMachine m).now = s.now := wall
  simp only [load, h, now, Except.bind, failed]

/-- The tasks that are read and planned take the place of the listed ones, and the records stay. -/
theorem load_of_planned {m : Machine} {ts planned : List Task}
    (h : Store.load s.desk.machine (Path.ofString path) = (.ok ts, m)) (wall : m.wall = s.now)
    (made : ts.mapM (·.planned s.now) = .ok planned) :
    (s.load path).1 = .ok planned ∧ (s.load path).2.tasks = planned
      ∧ (s.load path).2.history = s.history := by
  have now : (s.withMachine m).now = s.now := wall
  have result : s.load path = (.ok planned, { s.withMachine m with
      cards := s.cards ++ planned
      listed := List.range' s.cards.length planned.length }.info
        ("Loaded " ++ countText planned.length ++ " from " ++ path)) := by
    simp only [load, h, now, Except.bind, made]
    rfl
  rw [result]
  exact ⟨rfl, filterMap_entered s.cards planned, rfl⟩

end Load

/-- The tasks of a file are listed: one for each entry, in order, as its fields say, planned as seen
from the present moment. -/
def Listed (s : Scheduler) (path : String) : Prop :=
  ∃ entries tasks, readValue s.desk.machine.files (Path.ofString path) = .ok (.list entries)
    ∧ (s.load path).1 = .ok tasks ∧ (s.load path).2.tasks = tasks
    ∧ List.Forall₂ (fun v t => ∃ read next, Store.Belongs s.desk.machine v read
        ∧ read.nextRunAt s.now = .ok next ∧ t = { read with nextRun := next }) entries tasks

/-- A file of tasks is refused. -/
def Refused (s : Scheduler) (path : String) : Prop :=
  ∃ f, (s.load path).1 = .error f ∧ f.isStore = true

/-- The tasks that are read from a file can be planned. -/
def Plannable (s : Scheduler) (path : String) : Prop :=
  ∀ ts, (Store.load s.desk.machine (Path.ofString path)).1 = .ok ts → ∀ t ∈ ts, t.Foreseeable s.now

/-- Nothing but the number of the next identifier changes when a file is not loaded. -/
def Keeps (s : Scheduler) (path : String) : Prop :=
  (∀ f, (s.load path).1 = .error f →
      ∃ n, (s.load path).2 = s.withMachine { s.desk.machine with nextId := n })
    ∧ (s.load path).2.history = s.history

section Endings

variable {s : Scheduler} {path : String}

/-- A fault that is none of a file of tasks neither lists tasks nor refuses the file. -/
theorem not_settled_of_error {f : Fault} (failed : (s.load path).1 = .error f)
    (stray : f.isStore = false) : ¬ (s.Listed path ∨ s.Refused path) := by
  rintro (⟨entries, tasks, -, loaded, -⟩ | ⟨f', refused, store⟩)
  · rw [failed] at loaded
    cases loaded
  · rw [failed] at refused
    cases refused
    rw [stray] at store
    cases store

/-- The scheduler is kept when all that changed is a number. -/
theorem keeps_of_error {f : Fault} {m : Machine} (renumbered : s.desk.machine.Renumbered m)
    (failed : s.load path = (.error f, s.withMachine m)) : s.Keeps path := by
  obtain ⟨n, rfl⟩ := renumbered
  unfold Keeps
  rw [failed]
  exact ⟨fun _ _ => ⟨n, rfl⟩, rfl⟩

/-- The tasks that are read and planned are listed. -/
theorem listed_of_planned (there : exists? s.desk.machine.files (Path.ofString path) = .ok true)
    {m : Machine} {ts planned : List Task}
    (read : Store.load s.desk.machine (Path.ofString path) = (.ok ts, m)) (wall : m.wall = s.now)
    (made : ts.mapM (·.planned s.now) = .ok planned) : s.Listed path ∧ s.Keeps path := by
  obtain ⟨loaded, listed, history⟩ := load_of_planned read wall made
  obtain ⟨entries, contents, belonging⟩ := Store.forall₂_of_load there (by rw [read])
  constructor
  · refine ⟨entries, planned, contents, loaded, listed, ?_⟩
    apply (forall₂_comp belonging (mapM_eq_ok_iff.mp made)).imp
    rintro v t ⟨read, belongs, made⟩
    obtain ⟨next, told, rfl⟩ := Task.planned_eq_ok_iff.mp made
    exact ⟨read, next, belongs, told, rfl⟩
  · refine ⟨?_, history⟩
    intro f failed
    rw [loaded] at failed
    cases failed

/-- When tasks are read, they can be planned if and only if their next runs can be told. -/
theorem plannable_iff {r : Except Fault (List Task)} {m : Machine}
    (read : Store.load s.desk.machine (Path.ofString path) = (r, m)) :
    s.Plannable path ↔ ∀ ts, r = .ok ts → ∃ planned, ts.mapM (·.planned s.now) = .ok planned := by
  simp only [Plannable, read, Task.exists_mapM_planned_iff]

end Endings

/-- An existing file that holds anything at all either becomes the list of tasks, one for each entry,
in order, with the next run seen from the clock, or is refused, exactly when no infinity stands in a
field for a whole number before anything else is wrong and the next run of every task that is read can
be told. With such an infinity the fault is that of the conversion; with a task whose next run cannot
be told it is one of times. Whatever the fault, the scheduler is the same as before, up to the number of
the next identifier, and in any case it keeps its records. -/
theorem load_listed_or_refused_iff (s : Scheduler) (path : String)
    (there : exists? s.desk.machine.files (Path.ofString path) = .ok true) :
    ((s.Listed path ∨ s.Refused path)
        ↔ Store.fileResponse s.desk.machine.files (Path.ofString path) ≠ .boundless
          ∧ s.Plannable path)
      ∧ (Store.fileResponse s.desk.machine.files (Path.ofString path) = .boundless →
          (s.load path).1 = .error (.conversion .infinite))
      ∧ (¬ s.Plannable path → ∃ why, (s.load path).1 = .error (.time why))
      ∧ s.Keeps path := by
  have answers := Store.load_answers there
  have renumbered := Store.renumbered_load s.desk.machine (Path.ofString path)
  obtain ⟨⟨r, m⟩, read⟩ : ∃ r, Store.load s.desk.machine (Path.ofString path) = r := ⟨_, rfl⟩
  have plannable := plannable_iff read
  rw [read] at answers renumbered
  generalize Store.fileResponse s.desk.machine.files (Path.ofString path) = q at answers ⊢
  cases answers with
  | @unfit f store =>
    -- an entry is refused
    have failed := load_of_unread read
    have settled : s.Refused path := ⟨f, by rw [failed], store⟩
    simp [plannable, settled, keeps_of_error renumbered failed]
  | boundless =>
    -- an infinity is passed on
    have failed := load_of_unread read
    have stray : ¬ (s.Listed path ∨ s.Refused path) := not_settled_of_error (by rw [failed]) rfl
    simp [plannable, stray, keeps_of_error renumbered failed, failed]
  | meets ts =>
    have wall : m.wall = s.now := renumbered.wall
    cases made : ts.mapM (·.planned s.now) with
    | ok planned =>
      obtain ⟨listed, kept⟩ := listed_of_planned there read wall made
      simp [plannable, made, listed, kept]
    | error f =>
      -- the next run of a task cannot be told
      have failed := load_of_unplanned read wall made
      obtain ⟨t, -, planning⟩ := exists_of_mapM_eq_error made
      obtain ⟨why, rfl⟩ := Task.time_of_nextRunAt (Task.planned_eq_error_iff.mp planning)
      have stray : ¬ (s.Listed path ∨ s.Refused path) :=
        not_settled_of_error (by rw [failed]) (by cases why <;> rfl)
      simp [plannable, made, stray, keeps_of_error renumbered failed, failed]

/-- A scheduler at a moment, with one file in its working folder and without tasks. -/
def reading (contents : String) (now : Moment) : Scheduler :=
  (WorkerPool.vacant now).scheduler.withMachine
    (Machine.new ⟨[(["tasks.json"], .file (Text.encode contents))], []⟩ now)

/-- A task that is to run again after a time without end. -/
def endlessTask : String := "[\x7b\"schedule_type\": \"interval\", \"interval_minutes\": 1e999\x7d]"

/-- A task that is to run every day at midnight. -/
def nightlyTask : String := "[\x7b\"id\": \"t1\", \"name\": \"a\", \"script_path\": \"s.json\", \"created_at\": \"0001-01-01\"\x7d]"

/-- That task, as it is read. -/
def nightly : Task :=
  { WorkerPool.halfHourly "t1" "a" with rhythm := .daily, interval := none }

/-- A task that runs again after a time without end is neither listed nor refused, and neither is a task
that would have to run on the day after the last one of the calendar. -/
theorem load_listed_or_refused_iff_endless :
    (exists? (reading endlessTask WorkerPool.dawn).desk.machine.files (Path.ofString "tasks.json")
          = .ok true
        ∧ ((reading endlessTask WorkerPool.dawn).load "tasks.json").1
          = .error (.conversion .infinite))
      ∧ exists? (reading nightlyTask .never).desk.machine.files (Path.ofString "tasks.json")
          = .ok true
        ∧ ∃ why, ((reading nightlyTask .never).load "tasks.json").1 = .error (.time why) := by
  have endless : Store.fileResponse (reading endlessTask WorkerPool.dawn).desk.machine.files
      (Path.ofString "tasks.json") = .boundless := by decide +kernel
  have late : ¬ (reading nightlyTask .never).Plannable "tasks.json" := by
    intro all
    have read : (Store.load (reading nightlyTask .never).desk.machine (Path.ofString "tasks.json")).1
        = .ok [nightly] := by decide +kernel
    obtain ⟨next, told⟩ := Task.exists_nextRunAt_iff.mpr (all _ read nightly List.mem_cons_self)
    cases told
  exact ⟨⟨rfl, (load_listed_or_refused_iff _ _ rfl).2.1 endless⟩, rfl,
    (load_listed_or_refused_iff _ _ rfl).2.2.1 late⟩

end Scheduler

end Schedule

end Deskwork
