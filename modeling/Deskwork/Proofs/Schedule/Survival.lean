/-
# Tasks Survive Being Saved

A task whose identifier and address are not empty, whose time of day is a whole second without offset,
whose numbers are not too long and whose creation has a legible offset (`Task.Storable`) is read back
from its data (`Task.ofFields_fields`), up to the moments that are not kept. The main statement,
`Scheduler.reloads_of_saved`, is about any list of such tasks, a writable path and a clock before the last
year of the calendar: what was saved is loaded again, and planned anew. A clock with an offset cannot
load a task that runs at its time of day, and an offset below a second is lost
(`Scheduler.not_reloads_of_offsets`).
-/
import Deskwork.Proofs.Desk
import Deskwork.Proofs.Schedule.Loading
import Deskwork.Proofs.Script.Survival

namespace Deskwork

open Deskwork.Files Deskwork.Time Deskwork.Text

namespace Schedule

/-! ## Words -/

@[simp]
theorem Rhythm.choice_word (r : Rhythm) : Convert.choice choice (.text r.word) = .ok r := by
  cases r <;> rfl

@[simp]
theorem Policy.choice_word (p : Policy) : Convert.choice choice (.text p.word) = .ok p := by
  cases p <;> rfl

/-- A weekday is read back from its name. -/
theorem Task.readDay_name (d : Weekday) : readDay (.text d.name) = .ok d := by
  have capitals : upper d.name = d.name := by cases d <;> decide +kernel
  simp only [readDay, Value.asText, Scalar.asText, capitals, Weekday.ofName?_name]

/-! ## Tasks that are kept -/

namespace Task

/-- The task without the moments that are not kept. -/
def stored (t : Task) : Task := { t with lastRun := none, nextRun := none, lastNotified := none }

/-- A task that is kept as data, except perhaps for the moment of its creation. -/
structure Tidy (t : Task) : Prop where
  /-- It has an identifier. -/
  identified : t.id ≠ ""
  /-- Its address, if there is one, is not empty. -/
  addressed : t.webhookUrl ≠ some ""
  /-- Its time of day is a whole second without offset. -/
  timed : t.time.micros % secondMicros = 0 ∧ t.time.offset = none
  /-- The minutes between two runs do not have too many digits. -/
  spaced : ∀ n, t.interval = some n → (Value.int n).Short
  /-- Neither have those between two notifications. -/
  throttled : (Value.int t.notifyInterval).Short

/-- A task that is kept as data. -/
structure Storable (t : Task) : Prop extends t.Tidy where
  /-- The offset of its creation is told apart from every other one. -/
  dated : t.created.Legible

/-- A text keeps a tidy task. -/
theorem kept_toValue {t : Task} (h : t.Tidy) : t.toValue.Kept := by
  have days : (daysValue t.days).Kept := by
    cases t.days with
    | none => exact .scalar trivial
    | some days =>
      apply Value.Kept.list
      intro v mem
      obtain ⟨d, -, rfl⟩ := List.mem_map.mp mem
      exact .scalar trivial
  have interval : ((t.interval.map Value.int).getD .null).Kept := by
    cases there : t.interval with
    | none => exact .scalar trivial
    | some n =>
      cases h.spaced n there with
      | scalar short => exact .scalar short
  have notifyInterval : (Value.int t.notifyInterval).Kept := by
    cases h.throttled with
    | scalar short => exact .scalar short
  have url : ((t.webhookUrl.map Value.text).getD .null).Kept := by
    cases t.webhookUrl <;> exact .scalar trivial
  have words (s : String) : (Value.text s).Kept := .scalar trivial
  have truth (b : Bool) : (Value.bool b).Kept := .scalar trivial
  apply Value.Kept.object
  · simp [fields, days, interval, notifyInterval, url, words, truth]
  · simp [fields, Table.keys]

/-! ## Reading what was written -/

/-- A text that is not empty fills its field. -/
theorem filled?_of_text {fields : Fields} {name s : String}
    (field : Value.field? fields name = some (.text s)) (filled : s ≠ "") :
    Settings.filled? fields name = some (.text s) := by
  have isTrue : (Value.text s).isTrue = true := by simpa [Value.isTrue, Scalar.isTrue] using filled
  rw [Settings.filled?, field, Option.filter_some, if_pos isTrue]

/-- The weekdays are read back. -/
theorem readDays_fields (t : Task) : readDays t.fields = .ok t.days := by
  have field : Value.field? t.fields "days_of_week" = some (daysValue t.days) := rfl
  rw [readDays, field]
  cases t.days with
  | none => rfl
  | some days =>
    have read : (days.map fun d => Value.text d.name).mapM readDay = .ok days := by
      rw [mapM_eq_ok_iff, List.forall₂_map_left_iff, List.forall₂_same]
      intro d _
      exact readDay_name d
    show ((days.map fun d => Value.text d.name).mapM readDay).map some = .ok (some days)
    rw [read]
    rfl

/-- The minutes between two runs are read back. -/
theorem readInterval_fields (t : Task) : readInterval t.fields = .ok t.interval := by
  have field : Value.field? t.fields "interval_minutes"
      = some ((t.interval.map Value.int).getD .null) := rfl
  rw [readInterval, field]
  cases t.interval with
  | none => rfl
  | some n => rfl

/-- The minutes between two notifications are read back. -/
theorem readNotifyInterval_fields (t : Task) (other : Int) :
    Convert.field t.fields "notify_interval_minutes" Convert.int other = .ok t.notifyInterval := by
  have field : Value.field? t.fields "notify_interval_minutes" = some (.int t.notifyInterval) := rfl
  rw [Convert.field, field]
  exact Convert.int_int t.notifyInterval

/-- The moment of the creation is what its text is read as. -/
theorem readCreated_fields {t : Task} {created : Moment}
    (read : readMoment t.created.iso = .ok created) (now : Moment) :
    readCreated t.fields now = .ok created := by
  have written : t.created.iso ≠ "" := by
    intro empty
    have chars := toList_iso t.created
    rw [empty] at chars
    have length := congrArg List.length chars
    simp [isoChars] at length
  have filled : Settings.filled? t.fields "created_at" = some (.text t.created.iso) :=
    filled?_of_text rfl written
  rw [readCreated, filled]
  show (readMoment t.created.iso).mapError Fault.time = .ok created
  rw [read]
  rfl

section Tidy

variable {t : Task} (h : t.Tidy)

include h

/-- The identifier is read back, and no new one is given. -/
theorem readId_fields (m : Machine) : readId t.fields m = (t.id, m) := by
  have filled : Settings.filled? t.fields "id" = some (.text t.id) :=
    filled?_of_text rfl h.identified
  rw [readId, filled]
  rfl

/-- The time of day is read back. -/
theorem readTime_fields : readTime (textField t.fields "execution_time" "00:00:00") = .ok t.time :=
  readTime_clockText h.timed.1 h.timed.2

/-- The address is read back. -/
theorem readUrl_fields : Settings.readUrl t.fields "notify_webhook_url" = t.webhookUrl := by
  have field : Value.field? t.fields "notify_webhook_url"
      = some ((t.webhookUrl.map Value.text).getD .null) := rfl
  have addressed := h.addressed
  unfold Settings.readUrl
  rw [field]
  cases there : t.webhookUrl with
  | none => rfl
  | some url =>
    rw [there] at addressed
    rw [Option.map_some, Option.getD_some]
    split
    · rename_i impossible
      cases impossible
    · rename_i impossible
      cases impossible
    · rename_i empty
      cases empty
      exact absurd rfl addressed
    · rename_i found
      cases found
      rfl

/-- A task is read back from its fields, without the moments that are not kept, and made at the moment
as which its creation is read. -/
theorem ofFields_fields {created : Moment} (read : readMoment t.created.iso = .ok created)
    (m : Machine) : ofFields t.fields m = (.ok { t.stored with created := created }, m) := by
  have rhythm : Convert.choice Rhythm.choice (.text (textField t.fields "schedule_type" "daily"))
      = .ok t.rhythm := t.rhythm.choice_word
  have policy : Convert.choice Policy.choice (.text (textField t.fields "notify_policy" "on_error"))
      = .ok t.policy := t.policy.choice_word
  have rest : readRest t.fields t.days t.id m.wall = .ok { t.stored with created := created } := by
    simp only [readRest, rhythm, readTime_fields h, readInterval_fields, readCreated_fields read,
      policy, readNotifyInterval_fields, readUrl_fields h, Except.mapError, bind, Except.bind, pure,
      Except.pure]
    rfl
  simp only [ofFields, readDays_fields, readId_fields h, rest]

end Tidy

/-! ## Planning anew -/

/-- Before the last year of the calendar, eight more days lie in it. -/
theorem micros_lt_of_year {now : Moment} (early : now.date.year < lastYear) (t : TimeOfDay) :
    (now.atTime t).micros + 7 * dayMicros < calendarMicros := by
  have counted := daysBeforeYear_yearAndRest now.day
  have within := rest_lt_yearLength now.day
  have next := daysBeforeYear_succ (year_pos now.day)
  have year : (yearAndRest now.day).1 + 1 ≤ lastYear := early
  have before := daysBeforeYear_mono year
  have last : daysBeforeYear lastYear + 365 = dayCount := by decide
  have inDay := t.inDay
  have day : now.day + 8 ≤ dayCount := by omega
  rw [calendarMicros_eq]
  calc now.day * dayMicros + t.micros + 7 * dayMicros
      < now.day * dayMicros + 8 * dayMicros := by omega
    _ = (now.day + 8) * dayMicros := (Nat.add_mul _ _ _).symm
    _ ≤ dayCount * dayMicros := Nat.mul_le_mul_right _ day

/-- A task runs at its time of day: every day, or on some weekdays. -/
def AtTime (t : Task) : Prop :=
  t.enabled = true ∧ (t.rhythm = .daily ∨ t.rhythm = .weekly ∧ ∃ d ds, t.days = some (d :: ds))

/-- The next run of a task that has not run yet can be told before the last year of the calendar, when
the task has no offset and the clock has none either, or the task does not run at its time of day. -/
theorem foreseeable_of_fresh {t : Task} {now : Moment} (plain : now.offset = none ∨ ¬ t.AtTime)
    (early : now.date.year < lastYear) (timed : t.time.offset = none) (fresh : t.lastRun = none) :
    t.Foreseeable now := by
  have later := micros_lt_of_year early t.time
  have comparable (atTime : t.AtTime) : now.Comparable (now.atTime t.time) := by
    rcases plain with plain | other
    · show now.offset.isSome = t.time.offset.isSome
      rw [plain, timed]
    · exact absurd atTime other
  intro enabled
  cases rhythm : t.rhythm with
  | daily =>
    show HasDaily now (now.atTime t.time)
    exact ⟨comparable ⟨enabled, .inl rhythm⟩, .inr (by omega)⟩
  | weekly =>
    intro d ds days
    exact ⟨comparable ⟨enabled, .inr ⟨rhythm, d, ds, days⟩⟩, 7, Nat.le_refl 7, later, .inl rfl⟩
  | interval =>
    intro n last _ _ ran
    rw [fresh] at ran
    cases ran

end Task

/-! ## Files of tasks -/

namespace Store

/-- The entry of a tidy task is read. -/
theorem readTask_toValue {t : Task} (tidy : t.Tidy) {created : Moment}
    (read : readMoment t.created.iso = .ok created) (index : Nat) (m : Machine) :
    readTask index t.toValue m = (.ok { t.stored with created := created }, m) := by
  show ((Task.ofFields t.fields m).1.mapError (wrap index), (Task.ofFields t.fields m).2) = _
  rw [Task.ofFields_fields tidy read]
  rfl

/-- Tasks are read back from their data, in order. -/
theorem readTasks_toValue {ts : List Task} (storable : ∀ t ∈ ts, t.Storable) (index : Nat)
    (m : Machine) : readTasks index (ts.map Task.toValue) m = (.ok (ts.map Task.stored), m) := by
  induction ts generalizing index with
  | nil => rfl
  | cons t ts ih =>
    obtain ⟨first, others⟩ := List.forall_mem_cons.mp storable
    rw [List.map_cons, readTasks, readTask_toValue first.toTidy (readMoment_iso first.dated)]
    dsimp only
    rw [ih others]
    rfl

/-- Tasks that were saved are read from what they are as data. -/
theorem load_of_saved {m : Machine} {p : Path} {ts : List Task} (tidy : ∀ t ∈ ts, t.Tidy)
    (saved : Saved m.files p (toValue ts)) : load m p = readTasks 1 (ts.map Task.toValue) m := by
  have whole : (toValue ts).Kept := by
    apply Value.Kept.list
    intro v mem
    obtain ⟨t, member, rfl⟩ := List.mem_map.mp mem
    exact Task.kept_toValue (tidy t member)
  have read := saved.readValue whole
  simp only [load, saved.there, read]
  rfl

/-- A single task that was saved is loaded with the moment as which its creation is read. -/
theorem load_of_saved_singleton {m : Machine} {p : Path} {t : Task} (tidy : t.Tidy) {created : Moment}
    (read : readMoment t.created.iso = .ok created) (saved : Saved m.files p (toValue [t])) :
    load m p = (.ok [{ t.stored with created := created }], m) := by
  rw [load_of_saved (List.forall_mem_singleton.mpr tidy) saved, List.map_singleton, readTasks,
    readTask_toValue tidy read]
  rfl

/-- Any tasks can be saved to a writable path. -/
theorem save_of_writable {m : Machine} {p : Path} (sound : m.files.Sound) (writable : Writable m.files p)
    (ts : List Task) :
    ∃ files, save m p ts = (.ok (), { m with files := files }) ∧ Saved files p (toValue ts) := by
  obtain ⟨files, done, saved⟩ := saveValue_of_writable sound writable (toValue ts)
  refine ⟨files, ?_, saved⟩
  simp only [save, done]
  rfl

end Store

/-! ## Saving and loading -/

namespace Scheduler

/-- A scheduler loads a list of tasks from a file: in order, without the moments that are not kept, and
with the next runs seen from its clock. -/
def Reloads (s : Scheduler) (path : String) (ts : List Task) : Prop :=
  ∃ loaded, (s.load path).1 = .ok loaded ∧ (s.load path).2.tasks = loaded
    ∧ List.Forall₂ (fun t u => ∃ next, t.stored.nextRunAt s.now = .ok next
        ∧ u = { t.stored with nextRun := next }) ts loaded

/-- The tasks of a scheduler are saved as a list of tasks is. -/
theorem save_eq (s : Scheduler) (path : String) :
    (s.save path).1 = (Store.save s.desk.machine (Path.ofString path) s.tasks).1
      ∧ (s.save path).2.desk.machine.files
        = (Store.save s.desk.machine (Path.ofString path) s.tasks).2.files := by
  unfold save
  cases Store.save s.desk.machine (Path.ofString path) s.tasks with
  | mk r m =>
    cases r with
    | error f => exact ⟨rfl, rfl⟩
    | ok _ =>
      have talk := Desk.hushed_logged { s.desk with machine := m } .info source
        ("Saved " ++ countText s.tasks.length ++ " to " ++ path)
      exact ⟨rfl, congrArg (·.machine.files) talk⟩

/-- Any list of tasks that are kept as data can be saved to every writable path, by itself or as the
tasks of a scheduler, and every scheduler that finds the file loads the same list from it, planned
anew, as long as its clock shows a moment before the last year of the calendar, and has no offset when
one of the tasks runs at its time of day. -/
theorem reloads_of_saved {m : Machine} {path : String} {ts : List Task} (sound : m.files.Sound)
    (writable : Writable m.files (Path.ofString path)) (storable : ∀ t ∈ ts, t.Storable) :
    ∃ m', Store.save m (Path.ofString path) ts = (.ok (), m')
      ∧ (∀ s : Scheduler, s.desk.machine = m → s.tasks = ts →
          (s.save path).1 = .ok () ∧ (s.save path).2.desk.machine.files = m'.files)
      ∧ ∀ s : Scheduler, s.desk.machine.files = m'.files → s.now.date.year < lastYear →
          (s.now.offset = none ∨ ∀ t ∈ ts, ¬ t.AtTime) → s.Reloads path ts := by
  obtain ⟨files, written, saved⟩ := Store.save_of_writable sound writable ts
  have tidy : ∀ t ∈ ts, t.Tidy := fun t mem => (storable t mem).toTidy
  refine ⟨{ m with files := files }, written, ?_, ?_⟩
  · rintro s rfl rfl
    have alike := save_eq s path
    rw [written] at alike
    exact alike
  · intro s here early plain
    have read : Store.load s.desk.machine (Path.ofString path)
        = (.ok (ts.map Task.stored), s.desk.machine) :=
      (Store.load_of_saved tidy (here ▸ saved)).trans (Store.readTasks_toValue storable 1 _)
    have foreseeable : ∀ t ∈ ts.map Task.stored, t.Foreseeable s.now := by
      intro u mem
      obtain ⟨t, member, rfl⟩ := List.mem_map.mp mem
      have plain' : s.now.offset = none ∨ ¬ t.stored.AtTime := plain.imp_right fun others => others t member
      exact Task.foreseeable_of_fresh plain' early (storable t member).timed.2 rfl
    obtain ⟨planned, made⟩ := Task.exists_mapM_planned_iff.mpr foreseeable
    obtain ⟨loaded, listed, -⟩ := load_of_planned read rfl made
    refine ⟨planned, loaded, listed, ?_⟩
    apply (List.forall₂_map_left_iff.mp (mapM_eq_ok_iff.mp made)).imp
    intro t u replanned
    exact Task.planned_eq_ok_iff.mp replanned

/-- A task on some weekdays, one of them named twice, which was made in another zone. -/
def marketDays : Task :=
  { WorkerPool.halfHourly "t2" "to \"market\"" with
    rhythm := .weekly, time := ⟨32400000000, none, by decide⟩
    days := some [.friday, .monday, .friday], interval := none
    created := ⟨90000000500, some (-5400000000), by decide⟩ }

/-- A desk without files at the beginning of the calendar. -/
def firstMachine : Machine := Machine.new ⟨[], []⟩ WorkerPool.dawn

theorem sound_firstMachine : firstMachine.files.Sound := ⟨by simp [firstMachine, Machine.new], rfl⟩

/-- A scheduler at a moment that finds some files. -/
def finding (files : Tree) (now : Moment) : Scheduler :=
  (WorkerPool.vacant now).scheduler.withMachine (Machine.new files now)

/-- A task with short numbers, an identifier, no address and its time at midnight is tidy. -/
theorem tidy_nightly : nightly.Tidy where
  identified := by decide
  addressed := by decide
  timed := ⟨rfl, rfl⟩
  spaced := by
    intro n minutes
    cases minutes
  throttled := Value.short_of_lt (by decide)

/-- A task that runs every night is kept as data. -/
theorem storable_nightly : nightly.Storable where
  toTidy := tidy_nightly
  dated := by
    intro o offset
    cases offset

theorem storable_marketDays : marketDays.Storable where
  identified := by decide
  addressed := by decide
  timed := ⟨rfl, rfl⟩
  spaced := by
    intro n minutes
    cases minutes
  throttled := Value.short_of_lt (by decide)
  dated := by
    rintro o ⟨⟩
    exact ⟨by decide, .inr (by decide)⟩

/-- Two tasks are saved in a new folder and loaded again. -/
theorem reloads_of_saved_newFolder :
    (∀ t ∈ [nightly, marketDays], t.Storable)
      ∧ ∃ m', Store.save firstMachine (Path.ofString "a/tasks.json") [nightly, marketDays]
            = (.ok (), m')
          ∧ (finding m'.files WorkerPool.halfPast).Reloads "a/tasks.json" [nightly, marketDays] := by
  have storable : ∀ t ∈ [nightly, marketDays], t.Storable :=
    List.forall_mem_cons.mpr ⟨storable_nightly, List.forall_mem_singleton.mpr storable_marketDays⟩
  have writable : Writable firstMachine.files (Path.ofString "a/tasks.json") := by
    constructor <;> decide +kernel
  have early : WorkerPool.halfPast.date.year < lastYear := by decide
  obtain ⟨m', saved, -, reloads⟩ := reloads_of_saved sound_firstMachine writable storable
  exact ⟨storable, m', saved, reloads _ rfl early (.inl rfl)⟩

/-- A task that runs every night, made at a clock that is half a thousandth of a second ahead. -/
def slightlyAhead : Task := { nightly with created := ⟨0, some 500, by decide⟩ }

/-- Tasks do not survive being saved when the clock has an offset and the task runs every day, or when a
task was made at an offset of less than a second, which is lost. -/
theorem not_reloads_of_offsets :
    (nightly.Storable ∧ WorkerPool.evening.date.year < lastYear
        ∧ ∃ m', Store.save firstMachine (Path.ofString "tasks.json") [nightly] = (.ok (), m')
          ∧ ¬ (finding m'.files WorkerPool.evening).Reloads "tasks.json" [nightly])
      ∧ slightlyAhead.Tidy ∧ WorkerPool.halfPast.date.year < lastYear
        ∧ ∃ m', Store.save firstMachine (Path.ofString "tasks.json") [slightlyAhead] = (.ok (), m')
          ∧ ¬ (finding m'.files WorkerPool.halfPast).Reloads "tasks.json" [slightlyAhead] := by
  have writable : Writable firstMachine.files (Path.ofString "tasks.json") := by
    constructor <;> decide +kernel
  have tidy : slightlyAhead.Tidy := { tidy_nightly with }
  refine ⟨⟨storable_nightly, by decide, ?_⟩, tidy, by decide, ?_⟩
  · obtain ⟨files, written, saved⟩ := Store.save_of_writable sound_firstMachine writable [nightly]
    refine ⟨_, written, ?_⟩
    rintro ⟨loaded, found, -⟩
    have read := Store.load_of_saved_singleton (m := (finding files WorkerPool.evening).desk.machine)
      tidy_nightly (readMoment_iso storable_nightly.dated) saved
    have failed := load_of_unplanned (f := .time .mixedOrder) read rfl rfl
    have clash := (congrArg Prod.fst failed).symm.trans found
    cases clash
  · obtain ⟨files, written, saved⟩ :=
      Store.save_of_writable sound_firstMachine writable [slightlyAhead]
    refine ⟨_, written, ?_⟩
    rintro ⟨loaded, found, -, alike⟩
    have lost : readMoment slightlyAhead.created.iso = .ok ⟨0, some 0, by decide⟩ := by
      decide +kernel
    have read := Store.load_of_saved_singleton (m := (finding files WorkerPool.halfPast).desk.machine)
      tidy lost saved
    have made : [{ slightlyAhead.stored with created := ⟨0, some 0, by decide⟩ }].mapM
        (·.planned WorkerPool.halfPast) = .ok [{ slightlyAhead with
          created := ⟨0, some 0, by decide⟩
          nextRun := some ⟨86400000000, none, by decide⟩ }] := by decide +kernel
    obtain ⟨changed, -⟩ := load_of_planned read rfl made
    obtain rfl := Except.ok.inj (changed.symm.trans found)
    cases alike with
    | cons same _ =>
      obtain ⟨next, -, same⟩ := same
      have offset : some (0 : Int) = some 500 := congrArg (fun t => t.created.offset) same
      cases offset

end Scheduler

end Schedule

end Deskwork
