/-
# Conclusion

When a run is over, its record is closed and kept, its task is renewed, the watcher is told, and a
notification is sent when the task wants one. Whatever the run comes to, whatever the watcher does with
what it is told and whatever the messenger answers, the end is reached, except for three computations
on the way: when the task runs next, how long the run took, and how long ago the last notification was.
The main statement says exactly when a run returns its record, and what has been done then
(`Scheduler.execute_returns_iff`).
-/
import Deskwork.Proofs.Schedule.Foresight
import Deskwork.Proofs.Schedule.Listing
import Deskwork.Proofs.Session.Bodies

namespace Deskwork

/-! ## What watchers heard -/

/-- The event is the note of a watcher that a task has ended. -/
def Event.isEnding : Event → Bool
  | .taskEnded .. => true
  | _ => false

namespace Desk

/-- The notes of watchers that tasks have ended, in order. -/
def endings (d : Desk) : List Event := (d.machine.journal.filter Event.isEnding).reverse

/-- No such note is talk. -/
theorem Chats.endings {d d' : Desk} (h : d.Chats d') : d'.endings = d.endings := by
  refine congrArg List.reverse (h.filter_journal fun e he => ?_)
  cases e <;> first | rfl | cases he

theorem endings_logged (d : Desk) (level : Level) (source message : String) :
    (d.logged level source message).endings = d.endings :=
  (d.chats_logged level source message).endings

/-- Sending a message tells no watcher of the end of a task. -/
theorem endings_post (d : Desk) (url body : String) (timeout : Number.Amount) :
    ({ d with machine := (d.machine.post url body timeout).2 } : Desk).endings = d.endings := by
  unfold endings
  dsimp only
  rw [(post_journal d.machine d.machine.journal url body timeout).2]
  rfl

end Desk

namespace Schedule

open Deskwork.Time

/-- To judge an answer is only talk. -/
theorem Notifier.chats_judge (t : Task) (reply : Except Unanswered WebResponse) (d : Desk) :
    d.Chats (judge t reply d).2 := by
  unfold judge
  split
  · split
    · exact d.chats_logged _ _ _
    · exact .refl d
  · split
    · exact d.chats_logged _ _ _
    · exact d.chats_logged _ _ _

/-- The message about a run is sent once when there is a message and an address. The rest is talk. -/
theorem Notifier.chats_send (n : Notifier) (t : Task) (r : Record) (d : Desk) :
    match n.urlFor t, message t r with
    | some url, .ok text =>
      ({ d with machine := (d.machine.post url (body text) n.timeout).2 } : Desk).Chats (n.send t r d).2
    | _, _ => d.Chats (n.send t r d).2 := by
  unfold send
  cases n.urlFor t with
  | none => exact d.chats_logged _ _ _
  | some url =>
    cases message t r with
    | error f => exact .refl d
    | ok text => exact chats_judge t _ _

/-- Whatever the answer to a message is, no watcher is told of the end of a task. -/
theorem Notifier.endings_send (n : Notifier) (t : Task) (r : Record) (d : Desk) :
    (n.send t r d).2.endings = d.endings := by
  have talk := n.chats_send t r d
  split at talk
  case h_1 url text known written =>
    rw [talk.endings]
    exact d.endings_post url (body text) n.timeout
  case h_2 => exact talk.endings

/-! ## Records -/

/-- The outcome of a run; a fault counts as a failure. -/
def verdictOf : Except Fault Verdict → Verdict
  | .ok v => (v.1, Scheduler.reason v)
  | .error f => (false, some f.summary)

namespace Record

/-- The record of a run that is over. -/
def concluded (r : Record) (result : Except Fault Verdict) (now : Moment) : Record :=
  r.closed (verdictOf result).1 (verdictOf result).2 now

/-- How long a run took can be told when its end can be compared with its beginning. -/
theorem exists_duration_iff {r : Record} {success : Bool} {error : Option String} {now : Moment} :
    (∃ text, (r.closed success error now).duration = .ok text) ↔ now.Comparable r.start := by
  rw [← Moment.exists_since_iff]
  unfold duration seconds closed
  dsimp only
  cases now.since r.start with
  | error f => exact ⟨fun ⟨text, h⟩ => (nomatch h), fun ⟨d, h⟩ => nomatch h⟩
  | ok d => exact ⟨fun _ => ⟨d, rfl⟩, fun _ => ⟨_, rfl⟩⟩

end Record

namespace Task

/-- A task with minutes whose next run was planned after a run is due when these minutes have passed
since the run began, and not before. -/
theorem le_of_isDue {t : Task} {start now later : Moment} {n : Int} (hrhythm : t.rhythm = .interval)
    (hn : t.interval = some n) (hpos : 0 < n) (hlast : t.lastRun = some start)
    (hplan : t.nextRunAt now = .ok t.nextRun) (hdue : t.isDue later = .ok true) :
    start.universal + n * 60000000 ≤ later.universal := by
  obtain ⟨henabled, slot, hslot, hcome⟩ := exists_slot_of_isDue hdue
  rw [hslot] at hplan
  have hinterval := nextRunAt_eq_some henabled hplan
  rw [hrhythm] at hinterval
  rw [← universal_of_nextInterval hn hpos hlast hinterval]
  exact (Moment.notAfter_iff.mp hcome).2

end Task

/-! ## The way to the end -/

namespace Scheduler

variable {s s' : Scheduler} {c live : Card} {t v : Task} {r : Record}

/-- The notes of watchers that tasks have ended, in order. -/
def endings (s : Scheduler) : List Event := s.desk.endings

/-- What the watcher of a scheduler notes when it is told that a task has ended. -/
def heard (s : Scheduler) (t : Task) (r : Record) : List Event :=
  if s.watcher = .none then [] else [.taskEnded t.id t.name r.id r.success]

theorem judge_fst (s : Scheduler) (t : Task) (result : Except Fault Verdict) :
    (s.judge t result).1 = verdictOf result := by
  cases result <;> rfl

/-- Whatever the outcome is, there is at most an entry about it. -/
theorem judge_snd (s : Scheduler) (t : Task) (result : Except Fault Verdict) :
    ∃ desk, s.desk.Chats desk ∧ (s.judge t result).2 = s.onDesk desk := by
  cases result with
  | ok v => exact ⟨s.desk, .refl _, rfl⟩
  | error f => exact ⟨_, s.desk.chats_logged _ _ _, rfl⟩

theorem endings_logEnd (s : Scheduler) (t : Task) (r : Record) (duration : String) :
    (s.logEnd t r duration).endings = s.endings := by
  unfold logEnd
  dsimp only
  split <;> exact Desk.endings_logged _ _ _ _

/-- The watcher notes the end of a task once. -/
theorem endings_tellEnded (s : Scheduler) (t : Task) (r : Record) :
    (s.tellEnded t r).endings = s.endings ++ s.heard t r := by
  have htold : (s.record (.taskEnded t.id t.name r.id r.success)).endings =
      s.endings ++ [.taskEnded t.id t.name r.id r.success] := List.reverse_cons
  unfold tellEnded heard
  dsimp only
  cases s.watcher with
  | none => exact (List.append_nil _).symm
  | record => exact htold
  | raise => exact (Desk.endings_logged _ _ _ _).trans htold

theorem endings_send (s : Scheduler) (t : Task) (r : Record) :
    (s.send t r).2.endings = s.endings := by
  unfold send
  split
  · unfold sendPlanned
    dsimp only
    split <;> rfl
  next n hn => exact n.endings_send t r s.desk

theorem endings_notify (s : Scheduler) (c : Card) (t : Task) (r : Record) :
    (s.notify c t r).2.endings = s.endings := by
  have hsent := s.endings_send t r
  unfold notify
  split
  · rfl
  · rfl
  · unfold deliver
    dsimp only
    generalize s.send t r = sent at hsent ⊢
    obtain ⟨_ | _ | _, s'⟩ := sent
    · exact (Desk.endings_logged _ _ _ _).trans hsent
    · exact hsent
    · exact hsent

/-- A run is told about, or not, when it can be told how long the last notification is ago. -/
theorem exists_notify_iff :
    (∃ u, (s.notify c t r).1 = .ok u) ↔ t.Measurable s.now := by
  rw [← @Task.exists_wantsNotice_iff t s.now r.success]
  unfold notify
  split
  next f h => exact ⟨fun ⟨u, hu⟩ => (nomatch hu), fun ⟨b, hb⟩ => nomatch h.symm.trans hb⟩
  next h => exact ⟨fun _ => ⟨false, h⟩, fun _ => ⟨(), rfl⟩⟩
  next h => exact ⟨fun _ => ⟨true, h⟩, fun _ => ⟨(), rfl⟩⟩

/-- The end of a run is announced to the end when its duration can be told, and how long the last
notification about its task is ago. -/
theorem announce_returns_iff (hv : s.task? live = some v) :
    ((∃ r', (s.announce live t r).1 = .ok r') ↔
        (∃ text, r.duration = .ok text) ∧ v.Measurable s.now) ∧
      ((∃ text, r.duration = .ok text) →
        (s.announce live t r).2.endings = s.endings ++ s.heard v r) ∧
      ∀ r', (s.announce live t r).1 = .ok r' → r' = r := by
  unfold announce
  cases r.duration with
  | error f =>
    exact ⟨⟨fun ⟨r', h⟩ => (nomatch h), fun ⟨⟨text, h⟩, _⟩ => (nomatch h)⟩,
      fun ⟨text, h⟩ => (nomatch h), fun r' h => (nomatch h)⟩
  | ok text =>
    dsimp only
    have hnoted : (s.logEnd t r text).task? live = some v := by
      obtain ⟨desk, messenger, hlogged⟩ := s.around_logEnd t r text
      rw [hlogged]
      exact hv
    rw [hnoted, Option.getD_some]
    have hnow := ((s.logEnd t r text).now_tellEnded v r).trans (s.now_logEnd t r text)
    have htold : ((s.logEnd t r text).tellEnded v r).endings = s.endings ++ s.heard v r := by
      rw [endings_tellEnded, endings_logEnd]
      unfold logEnd heard
      dsimp only
      split <;> rfl
    have hnotify := exists_notify_iff (s := (s.logEnd t r text).tellEnded v r) (c := live) (t := v)
      (r := r)
    have hendings := ((s.logEnd t r text).tellEnded v r).endings_notify live v r
    rw [hnow] at hnotify
    rw [htold] at hendings
    generalize ((s.logEnd t r text).tellEnded v r).notify live v r = notified at hnotify hendings ⊢
    obtain ⟨_ | _, s'⟩ := notified
    · refine ⟨⟨fun ⟨r', h⟩ => (nomatch h), fun ⟨_, h⟩ => ?_⟩, fun _ => hendings, fun r' h => nomatch h⟩
      obtain ⟨u, hu⟩ := hnotify.mpr h
      cases hu
    · refine ⟨⟨fun _ => ⟨⟨text, rfl⟩, hnotify.mp ⟨_, rfl⟩⟩, fun _ => ⟨r, rfl⟩⟩, fun _ => hendings, ?_⟩
      intro r' h
      cases h
      rfl

/-! ## The end -/

/-- A run is closed with a record that tells its outcome; its end is announced when the next run can
be told. -/
theorem closeRun_cases {result : Except Fault Verdict}
    (hv : s.task? (s.liveCard r.taskId c) = some v) :
    ∃ desk, s.desk.Chats desk ∧
      ((∃ f, (v.ranAt r.start).planned s.now = .error f ∧ s.closeRun c t r result =
          (.error f, (s.onDesk desk).filed (s.liveCard r.taskId c) (r.concluded result s.now))) ∨
        ∃ v', (v.ranAt r.start).planned s.now = .ok v' ∧ s.closeRun c t r result =
          ((s.onDesk desk).filed (s.liveCard r.taskId c) (r.concluded result s.now)).announce
            (s.liveCard r.taskId c) t (r.concluded result s.now)) := by
  obtain ⟨desk, hchats, hjudged⟩ := s.judge_snd t result
  have hnow : desk.machine.wall = s.now := congrArg (·.machine.wall) hchats.hushed
  have hjudge : s.judge t result = (verdictOf result, s.onDesk desk) :=
    Prod.ext (s.judge_fst t result) hjudged
  have hrecord : r.closed (verdictOf result).1 (verdictOf result).2 (s.onDesk desk).now =
    r.concluded result s.now := congrArg (r.concluded result) hnow
  have hsettle : (s.onDesk desk).settle c (r.concluded result s.now) = _ := settle_eq hv
  change _ = (((v.ranAt r.start).planned desk.machine.wall).map fun _ => s.liveCard r.taskId c, _)
    at hsettle
  rw [hnow] at hsettle
  refine ⟨desk, hchats, ?_⟩
  unfold closeRun
  rw [hjudge]
  dsimp only
  rw [hrecord, hsettle]
  cases hplanned : (v.ranAt r.start).planned s.now with
  | error f => exact .inl ⟨f, rfl, rfl⟩
  | ok v' => exact .inr ⟨v', rfl, rfl⟩

/-- What a run leaves behind that has come to its end: its record is kept, the watcher noted its end
once, and the task on the live card is renewed. -/
structure Concluded (s s' : Scheduler) (live : Card) (v : Task) (r : Record) : Prop where
  /-- The record is the latest one. -/
  history : s'.history = s.history.append r
  /-- The watcher noted the end of the run once. -/
  endings : s'.endings = s.endings ++ s.heard v r
  /-- The same cards are listed. -/
  listed : s'.listed = s.listed
  /-- The task on the live card ran last when this run began, and its next run was planned anew. -/
  renewed : ∃ v', s'.task? live = some v' ∧ v'.charter = v.charter ∧ v'.lastRun = some r.start ∧
    v'.nextRunAt s.now = .ok v'.nextRun
  /-- A task with minutes is not due before these minutes have passed since the run began. -/
  rests : ∀ v' n later, s'.task? live = some v' → v'.rhythm = .interval → v'.interval = some n →
    0 < n → v'.isDue later = .ok true → r.start.universal + n * 60000000 ≤ later.universal

/-- An announcement of the end of a run that was filed leaves everything as it should be. -/
theorem concluded_announce {desk : Desk} {v' : Task} (hchats : s.desk.Chats desk)
    (hplanned : (v.ranAt r.start).planned s.now = .ok v')
    (hfiled : ((s.onDesk desk).filed live r).task? live = some v')
    (htold : (((s.onDesk desk).filed live r).announce live t r).2.endings =
      ((s.onDesk desk).filed live r).endings ++ ((s.onDesk desk).filed live r).heard v' r) :
    s.Concluded (((s.onDesk desk).filed live r).announce live t r).2 live v r := by
  have hannounced := ((s.onDesk desk).filed live r).undisturbed_announce live t r
  have hsame := hannounced.agendas
  obtain ⟨next, hnext, rfl⟩ := Task.planned_eq_ok_iff.mp hplanned
  obtain ⟨u, hu, hagenda⟩ := exists_of_agendas hsame hfiled
  -- Only the notification of the renewed task may have changed.
  change u.agenda = { v with lastRun := some r.start, nextRun := next, lastNotified := none } at hagenda
  have hcharter : u.charter = v.charter := by
    have hsame : u.agenda.charter = _ := congrArg Task.charter hagenda
    exact hsame
  have hlast : u.lastRun = some r.start := by
    have hsame : u.agenda.lastRun = _ := congrArg Task.lastRun hagenda
    exact hsame
  have hplan : u.nextRunAt s.now = .ok u.nextRun := by
    have hbasis : u.basis = (v.ranAt r.start).basis :=
      congrArg (fun u : Task => { u with nextRun := none }) hagenda
    rw [Task.nextRunAt_congr hbasis, hnext]
    exact congrArg Except.ok (congrArg Task.nextRun hagenda).symm
  refine ⟨history_announce _ _ _ _, ?_, hannounced.listed,
    ⟨u, hu, hcharter, hlast, hplan⟩, ?_⟩
  · rw [htold]
    exact congrArg (· ++ _) hchats.endings
  · intro u' n later hu' hrhythm hn hpos hdue
    cases hu.symm.trans hu'
    exact Task.le_of_isDue hrhythm hn hpos hlast hplan hdue

/-- A run that is closed returns its record just when the three computations on the way can be made. -/
theorem closeRun_returns_iff {result : Except Fault Verdict}
    (hv : s.task? (s.liveCard r.taskId c) = some v) :
    ((∃ r', (s.closeRun c t r result).1 = .ok r') ↔
        (v.ranAt r.start).Foreseeable s.now ∧ s.now.Comparable r.start ∧ v.Measurable s.now) ∧
      (∀ r', (s.closeRun c t r result).1 = .ok r' → r' = r.concluded result s.now ∧
        s.Concluded (s.closeRun c t r result).2 (s.liveCard r.taskId c) v r') ∧
      (¬ (v.ranAt r.start).Foreseeable s.now →
        (s.closeRun c t r result).2.task? (s.liveCard r.taskId c) = some (v.ranAt r.start) ∧
          (s.closeRun c t r result).2.endings = s.endings) := by
  have hforeseen := @Task.exists_nextRunAt_iff (v.ranAt r.start) s.now
  obtain ⟨desk, hchats, ⟨f, hplanned, hclosed⟩ | ⟨v', hplanned, hclosed⟩⟩ :=
    closeRun_cases (t := t) (r := r) hv
  all_goals
    have hnow : (s.onDesk desk).now = s.now := congrArg (·.machine.wall) hchats.hushed
    have hfiled := (s.onDesk desk).task?_filed (s.liveCard r.taskId c) (r.concluded result s.now)
      (s.liveCard r.taskId c)
    have hv' : (s.onDesk desk).task? (s.liveCard r.taskId c) = some v := hv
    rw [if_pos rfl, hv', hnow] at hfiled
  · have hnot : ¬ (v.ranAt r.start).Foreseeable s.now := by
      intro h
      obtain ⟨next, hnext⟩ := hforeseen.mpr h
      have hplan := Task.planned_eq_ok_iff.mpr ⟨next, hnext, rfl⟩
      cases hplanned.symm.trans hplan
    rw [hclosed]
    refine ⟨⟨fun ⟨r', h⟩ => (nomatch h), fun h => absurd h.1 hnot⟩, fun r' h => (nomatch h), fun _ => ?_⟩
    exact ⟨hfiled.trans (congrArg some (Task.replanned_of_error hplanned)), hchats.endings⟩
  · have hseen : (v.ranAt r.start).Foreseeable s.now := by
      obtain ⟨next, hnext, -⟩ := Task.planned_eq_ok_iff.mp hplanned
      exact hforeseen.mp ⟨next, hnext⟩
    have hrenewed := hfiled.trans (congrArg some (Task.replanned_of_ok hplanned))
    have hmeasurable : v'.Measurable s.now ↔ v.Measurable s.now := by
      obtain ⟨next, -, rfl⟩ := Task.planned_eq_ok_iff.mp hplanned
      rfl
    obtain ⟨hreturns, htold, hrecord⟩ :=
      announce_returns_iff (t := t) (r := r.concluded result s.now) hrenewed
    have hduration : (∃ text, (r.concluded result s.now).duration = .ok text) ↔ _ :=
      Record.exists_duration_iff
    change _ ↔ (∃ text, (r.concluded result s.now).duration = .ok text) ∧
      v'.Measurable (s.onDesk desk).now at hreturns
    rw [hnow, hmeasurable, hduration] at hreturns
    rw [hclosed]
    refine ⟨hreturns.trans ⟨fun h => ⟨hseen, h⟩, And.right⟩, fun r' h => ?_, fun h => absurd hseen h⟩
    obtain rfl := hrecord r' h
    have htaken := (hreturns.mp ⟨_, h⟩).1
    exact ⟨rfl, concluded_announce hchats hplanned hrenewed (htold (hduration.mpr htaken))⟩

/-- A run returns its record just when the next run of its task can be told, the clock can be compared
with its beginning, and how long the last notification is ago can be told: then everything is as it
should be. When the next run cannot be told, the task keeps the one it had, and the watcher hears
nothing. -/
theorem execute_returns_iff {run : Run} {result : Except Fault Verdict} {u : Task}
    (hrun : run t (s.openRun t).2 = (result, s')) (hu : s'.task? c = some u) :
    ∃ v, s'.task? (s'.liveCard t.id c) = some v ∧
      ((∃ r, (s.execute run c t).1 = .ok r) ↔
        (v.ranAt s.now).Foreseeable s'.now ∧ s'.now.Comparable s.now ∧ v.Measurable s'.now) ∧
      (∀ r, (s.execute run c t).1 = .ok r → r = (s.openRun t).1.concluded result s'.now ∧
        s'.Concluded (s.execute run c t).2 (s'.liveCard t.id c) v r) ∧
      (¬ (v.ranAt s.now).Foreseeable s'.now →
        (s.execute run c t).2.task? (s'.liveCard t.id c) = some (v.ranAt s.now) ∧
          (s.execute run c t).2.endings = s'.endings) := by
  have hexecute : s.execute run c t = s'.closeRun c t (s.openRun t).1 result := by
    unfold execute
    dsimp only
    rw [hrun]
  have hlive : ∃ v, s'.task? (s'.liveCard t.id c) = some v := by
    unfold liveCard
    cases hfind : s'.find? t.id with
    | none => exact ⟨u, hu⟩
    | some d =>
      have hfound := List.find?_some hfind
      cases hd : s'.task? d with
      | none =>
        rw [hd] at hfound
        cases hfound
      | some v => exact ⟨v, hd⟩
  obtain ⟨v, hv⟩ := hlive
  rw [hexecute]
  exact ⟨v, hv, closeRun_returns_iff (r := (s.openRun t).1) hv⟩

/-- A task that runs again after more minutes than the calendar has. -/
def aeonic : Task := { WorkerPool.halfHourly "t1" "a" with interval := some 10000000000000 }

/-- A scheduler that has taken on this task. -/
def burdened : Scheduler :=
  ((WorkerPool.vacant ⟨0, none, calendarMicros_pos⟩).step (.add aeonic)).scheduler

/-- A run that succeeds at once. -/
def smooth : Run := fun _ s => (.ok (true, none), s)

/-- A run of such a task does not return its record, and the task is due again at once. -/
theorem execute_returns_iff_aeonic :
    ∃ t, burdened.task? 0 = some t ∧ (¬ ∃ r, (burdened.execute smooth 0 t).1 = .ok r) ∧
      ∃ v, (burdened.execute smooth 0 t).2.task? 0 = some v ∧ v.isDue burdened.now = .ok true := by
  let t : Task := { aeonic with nextRun := some burdened.now }
  have ht : (burdened.openRun t).2.task? 0 = some t := by decide +kernel
  have hlive : (burdened.openRun t).2.liveCard t.id 0 = 0 := by decide +kernel
  have hrun : smooth t (burdened.openRun t).2 = (.ok (true, none), (burdened.openRun t).2) := rfl
  obtain ⟨v, hv, hreturns, -, hkept⟩ := execute_returns_iff hrun ht
  rw [hlive] at hv hkept
  cases ht.symm.trans hv
  have hunseen : ¬ (t.ranAt burdened.now).Foreseeable (burdened.openRun t).2.now := by
    intro hseen
    have hfits := hseen rfl 10000000000000 burdened.now rfl (by decide) rfl
    exact absurd hfits (by decide +kernel)
  refine ⟨t, by decide +kernel, fun hreturned => hunseen (hreturns.mp hreturned).1, ?_⟩
  exact ⟨t.ranAt burdened.now, (hkept hunseen).1, by decide +kernel⟩

end Scheduler

end Schedule

end Deskwork
