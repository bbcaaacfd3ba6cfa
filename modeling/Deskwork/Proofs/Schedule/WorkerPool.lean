/-
# The Worker Pool

A scheduler together with the workers that have begun. Every worker takes its own time: it begins, its
run is noted when it is over, and it leaves. Between these moves the others make theirs: the list of
tasks is changed, due tasks are started, the clock goes on. A worker pool makes one move after the other,
in any order (`WorkerPool.after`), and a worker that is let run without interruption makes its three
moves in a row (`after_finishAt`).

No move changes what a task was taken on with (`Task.charter`), and most moves leave the workers alone:
they change the list of tasks (`Scheduler.Edits`), plan tasks anew (`Scheduler.Revises`), or leave the
plans as they are, too (`Scheduler.Undisturbed`).
-/
import Deskwork.Schedule.Execution

namespace Deskwork.Schedule

open Deskwork.Time

/-! ## Workers -/

/-- How far a worker has come that has begun. -/
inductive Stage where
  | running
  /-- Its run was noted: on a card, unless the next run could not be planned. -/
  | noted (outcome : Except Fault Card)

/-- A worker that has begun. -/
structure Worker where
  card : Card
  /-- The task on the card, as it found it. -/
  task : Task
  record : Record
  stage : Stage

/-- A scheduler with the workers that have begun and not left. -/
structure WorkerPool where
  scheduler : Scheduler
  workers : List Worker

/-! ## Moves -/

/-- A move of a worker pool. -/
inductive Move where
  | add (t : Task)
  | update (t : Task)
  | remove (id : String)
  | load (path : String)
  | clear
  | start
  | stop
  | tick (now : Moment)
  /-- Something happens around: the clock goes on, runs act on the machine. -/
  | pass (desk : Desk) (runner : Runner) (messenger : Messenger)
  | begin (index : Nat)
  | note (index : Nat) (result : Except Fault Verdict)
  | leave (index : Nat)

namespace Scheduler

/-- The worker at an index waits no longer. -/
def unwait (s : Scheduler) (index : Nat) : Scheduler :=
  { s with waiting := s.waiting.eraseIdx index }

/-- A worker leaves with a task, however the end of its run was announced. -/
def depart (t : Task) : Except Fault Record × Scheduler → Scheduler
  | (.ok _, s) => s.release t.id
  | (.error f, s) =>
    (s.error ("Task '" ++ t.name ++ "' crashed the worker: " ++ f.message)).release t.id

end Scheduler

namespace WorkerPool

/-- The scheduler of a worker pool changed. -/
def onScheduler (w : WorkerPool) (f : Scheduler → Scheduler) : WorkerPool :=
  { w with scheduler := f w.scheduler }

/-- A task begun by a worker. -/
def engage (w : WorkerPool) (c : Card) (t : Task) : WorkerPool :=
  let (r, s) := w.scheduler.openRun t
  ⟨s, ⟨c, t, r, .running⟩ :: w.workers⟩

/-- The waiting worker at an index begins. -/
def beginAt (w : WorkerPool) (index : Nat) : WorkerPool :=
  match w.scheduler.waiting[index]? with
  | none => w
  | some c =>
    let w := w.onScheduler fun s => s.unwait index
    match w.scheduler.task? c with
    | none => w
    | some t => w.engage c t

/-- The run of the worker at an index noted. -/
def noteAt (w : WorkerPool) (index : Nat) (result : Except Fault Verdict) : WorkerPool :=
  match w.workers[index]? with
  | some ⟨c, t, r, .running⟩ =>
    let (verdict, s) := w.scheduler.judge t result
    let r := r.closed verdict.1 verdict.2 s.now
    let (outcome, s) := s.settle c r
    ⟨s, w.workers.set index ⟨c, t, r, .noted outcome⟩⟩
  | _ => w

/-- The worker at an index leaves. -/
def leaveAt (w : WorkerPool) (index : Nat) : WorkerPool :=
  match w.workers[index]? with
  | some ⟨_, t, r, .noted (.ok live)⟩ =>
    ⟨Scheduler.depart t (w.scheduler.announce live t r), w.workers.eraseIdx index⟩
  | some ⟨_, t, _, .noted (.error f)⟩ =>
    ⟨Scheduler.depart t (.error f, w.scheduler), w.workers.eraseIdx index⟩
  | _ => w

/-- A worker pool after a move. -/
def step (w : WorkerPool) : Move → WorkerPool
  | .add t => w.onScheduler fun s => (s.add t).2
  | .update t => w.onScheduler fun s => (s.update t).2
  | .remove id => w.onScheduler fun s => (s.remove id).2
  | .load path => w.onScheduler fun s => (s.load path).2
  | .clear => w.onScheduler Scheduler.clearTasks
  | .start => w.onScheduler fun s => s.start.2
  | .stop => w.onScheduler Scheduler.stop
  | .tick now => w.onScheduler fun s => (s.tick now).2
  | .pass desk runner messenger => w.onScheduler fun s =>
    { s with desk := desk, runner := runner, messenger := messenger }
  | .begin index => w.beginAt index
  | .note index result => w.noteAt index result
  | .leave index => w.leaveAt index

/-- A worker pool after some moves. -/
def after (w : WorkerPool) (ms : List Move) : WorkerPool := ms.foldl step w

/-- No worker was started. -/
structure Idle (w : WorkerPool) : Prop where
  /-- None waits. -/
  waiting : w.scheduler.waiting = []
  /-- No task counts as being run. -/
  inFlight : w.scheduler.inFlight = []
  /-- None has begun. -/
  workers : w.workers = []

@[simp]
theorem after_nil (w : WorkerPool) : w.after [] = w := rfl

@[simp]
theorem after_cons (w : WorkerPool) (m : Move) (ms : List Move) :
    w.after (m :: ms) = (w.step m).after ms := rfl

theorem after_append (w : WorkerPool) (ms ns : List Move) :
    w.after (ms ++ ns) = (w.after ms).after ns := List.foldl_append

theorem after_concat (w : WorkerPool) (ms : List Move) (m : Move) :
    w.after (ms ++ [m]) = (w.after ms).step m := by
  rw [after_append, after_cons, after_nil]

/-! ## Workers without interruption -/

/-- A worker that is let run on a card with a task leaves after the whole run. -/
theorem work_eq_depart {s : Scheduler} {c : Card} {t : Task} (run : Run) (ht : s.task? c = some t) :
    s.work run c = Scheduler.depart t (s.execute run c t) := by
  unfold Scheduler.work
  rw [ht]
  dsimp only
  rcases s.execute run c t with ⟨_ | _, s'⟩ <;> rfl

/-- The worker that has begun last is noted and leaves as a run is closed. -/
theorem after_note_leave (w : WorkerPool) (c : Card) (t : Task) (r : Record)
    (result : Except Fault Verdict) :
    (⟨w.scheduler, ⟨c, t, r, .running⟩ :: w.workers⟩ : WorkerPool).after [.note 0 result, .leave 0] =
      { w with scheduler := Scheduler.depart t (w.scheduler.closeRun c t r result) } := by
  rw [after_cons, after_cons, after_nil]
  unfold step noteAt
  dsimp only [List.getElem?_cons_zero, List.set_cons_zero]
  unfold Scheduler.closeRun
  dsimp only
  cases h : ((w.scheduler.judge t result).2.settle c (r.closed (w.scheduler.judge t result).1.1
    (w.scheduler.judge t result).1.2 (w.scheduler.judge t result).2.now)) with
  | mk outcome s =>
    cases outcome with
    | error f => rfl
    | ok live => rfl

/-- A waiting worker that is let run makes three moves: it begins, its run is noted, and it leaves.
Its run makes moves of the worker pool in between. -/
theorem after_finishAt {w : WorkerPool} {run : Run} {index : Nat} {c : Card} {t : Task}
    (hc : w.scheduler.waiting[index]? = some c) (ht : w.scheduler.task? c = some t) {ms : List Move}
    (hrun : (w.beginAt index).after ms =
      (w.beginAt index).onScheduler fun s => (run t s).2) :
    w.after (.begin index :: ms ++ [.note 0 (run t (w.beginAt index).scheduler).1, .leave 0]) =
      w.onScheduler fun s => (s.finishAt run index).2 := by
  have hunwait : (w.scheduler.unwait index).task? c = some t := ht
  have hbegun : w.beginAt index = (w.onScheduler fun s => s.unwait index).engage c t := by
    unfold beginAt
    rw [hc]
    dsimp only [onScheduler]
    rw [hunwait]
  have hwork : (w.scheduler.finishAt run index).2 =
      Scheduler.depart t ((w.scheduler.unwait index).execute run c t) := by
    rw [← work_eq_depart run hunwait]
    unfold Scheduler.finishAt
    rw [hc]
    rfl
  rw [List.cons_append, after_cons, after_append]
  change ((w.beginAt index).after ms).after _ = _
  rw [hrun, hbegun]
  have hclosed := after_note_leave
    ⟨(run t ((w.scheduler.unwait index).openRun t).2).2, w.workers⟩ c t
    ((w.scheduler.unwait index).openRun t).1 (run t ((w.scheduler.unwait index).openRun t).2).1
  exact hclosed.trans (congrArg (fun s => (⟨s, w.workers⟩ : WorkerPool)) hwork.symm)

end WorkerPool

/-! ## What tasks keep -/

namespace Task

/-- A task as it was taken on: nothing that its runs change. -/
def charter (t : Task) : Task := { t with lastRun := none, nextRun := none, lastNotified := none }

/-- A task without its notifications. -/
def agenda (t : Task) : Task := { t with lastNotified := none }

/-- A planned task differs in its next run. -/
theorem planned_eq_ok_iff {t t' : Task} {now : Moment} :
    t.planned now = .ok t' ↔ ∃ next, t.nextRunAt now = .ok next ∧ t' = { t with nextRun := next } := by
  unfold planned
  cases t.nextRunAt now with
  | error f => simp [Except.map]
  | ok next => simp [Except.map, eq_comm]

theorem charter_planned {t t' : Task} {now : Moment} (h : t.planned now = .ok t') :
    t'.charter = t.charter := by
  obtain ⟨next, -, rfl⟩ := planned_eq_ok_iff.mp h
  rfl

end Task

namespace Scheduler

/-- The tasks on the cards as they were taken on. -/
def charters (s : Scheduler) : List Task := s.cards.map Task.charter

/-- The tasks on the cards without their notifications. -/
def agendas (s : Scheduler) : List Task := s.cards.map Task.agenda

variable {s s' s'' : Scheduler}

/-- From one scheduler to the other, all workers and all plans stay. -/
structure Undisturbed (s s' : Scheduler) : Prop where
  /-- The tasks on the cards differ in their notifications at most. -/
  agendas : s'.agendas = s.agendas
  /-- The same cards are listed. -/
  listed : s'.listed = s.listed
  /-- The same workers wait. -/
  waiting : s'.waiting = s.waiting
  /-- The same tasks count as being run. -/
  inFlight : s'.inFlight = s.inFlight

theorem Undisturbed.refl (s : Scheduler) : s.Undisturbed s := ⟨rfl, rfl, rfl, rfl⟩

theorem Undisturbed.trans (h : s.Undisturbed s') (h' : s'.Undisturbed s'') : s.Undisturbed s'' :=
  ⟨h'.agendas.trans h.agendas, h'.listed.trans h.listed, h'.waiting.trans h.waiting,
    h'.inFlight.trans h.inFlight⟩

/-- From one scheduler to the other, all workers stay, and tasks were planned anew at most. -/
structure Revises (s s' : Scheduler) : Prop where
  /-- The tasks on the cards are those that were taken on. -/
  charters : s'.charters = s.charters
  /-- The same cards are listed. -/
  listed : s'.listed = s.listed
  /-- The same workers wait. -/
  waiting : s'.waiting = s.waiting
  /-- The same tasks count as being run. -/
  inFlight : s'.inFlight = s.inFlight

theorem Revises.refl (s : Scheduler) : s.Revises s := ⟨rfl, rfl, rfl, rfl⟩

theorem Revises.trans (h : s.Revises s') (h' : s'.Revises s'') : s.Revises s'' :=
  ⟨h'.charters.trans h.charters, h'.listed.trans h.listed, h'.waiting.trans h.waiting,
    h'.inFlight.trans h.inFlight⟩

theorem charters_eq_map_agendas (s : Scheduler) : s.charters = s.agendas.map Task.charter := by
  unfold charters agendas
  rw [List.map_map]
  rfl

theorem Undisturbed.revises (h : s.Undisturbed s') : s.Revises s' := by
  refine ⟨?_, h.listed, h.waiting, h.inFlight⟩
  rw [charters_eq_map_agendas s', h.agendas, ← charters_eq_map_agendas]

/-- From one scheduler to the other, all workers stay, and so do the tasks on the cards. -/
structure Edits (s s' : Scheduler) : Prop where
  /-- Tasks may have been put on new cards. -/
  charters : s.charters <+: s'.charters
  /-- The same workers wait. -/
  waiting : s'.waiting = s.waiting
  /-- The same tasks count as being run. -/
  inFlight : s'.inFlight = s.inFlight

theorem Edits.refl (s : Scheduler) : s.Edits s := ⟨List.prefix_refl _, rfl, rfl⟩

theorem Revises.edits (h : s.Revises s') : s.Edits s' :=
  ⟨h.charters ▸ List.prefix_refl _, h.waiting, h.inFlight⟩

/-! ## The workers' part -/

/-- What happens around does not disturb. -/
theorem undisturbed_surroundings (s : Scheduler) (desk : Desk) (history : History)
    (messenger : Messenger) :
    s.Undisturbed { s with desk := desk, history := history, messenger := messenger } :=
  ⟨rfl, rfl, rfl, rfl⟩

theorem undisturbed_openRun (s : Scheduler) (t : Task) : s.Undisturbed (s.openRun t).2 := by
  unfold openRun tellStarted
  dsimp only
  split <;> exact ⟨rfl, rfl, rfl, rfl⟩

theorem undisturbed_judge (s : Scheduler) (t : Task) (r : Except Fault Verdict) :
    s.Undisturbed (s.judge t r).2 := by
  cases r <;> exact ⟨rfl, rfl, rfl, rfl⟩

theorem undisturbed_logEnd (s : Scheduler) (t : Task) (r : Record) (duration : String) :
    s.Undisturbed (s.logEnd t r duration) := by
  unfold logEnd
  dsimp only
  split <;> exact ⟨rfl, rfl, rfl, rfl⟩

theorem undisturbed_tellEnded (s : Scheduler) (t : Task) (r : Record) :
    s.Undisturbed (s.tellEnded t r) := by
  unfold tellEnded
  dsimp only
  split <;> exact ⟨rfl, rfl, rfl, rfl⟩

theorem undisturbed_send (s : Scheduler) (t : Task) (r : Record) :
    s.Undisturbed (s.send t r).2 := by
  unfold send
  split
  · unfold sendPlanned
    dsimp only
    split <;> exact ⟨rfl, rfl, rfl, rfl⟩
  · exact ⟨rfl, rfl, rfl, rfl⟩

/-- What a change of the task on one card keeps of the task, it keeps of all tasks. -/
theorem map_modify {f : Task → Task} {c : Card} {g : Task → Task}
    (h : ∀ t, s.task? c = some t → f (g t) = f t) : (s.modify c g).cards.map f = s.cards.map f := by
  refine List.ext_getElem? fun i => ?_
  unfold modify
  rw [List.getElem?_map, List.getElem?_map, List.getElem?_modify]
  by_cases hi : c = i
  · subst hi
    cases ht : s.cards[c]? with
    | none => rfl
    | some t => simp [h t ht]
  · simp [hi]

/-- Only the notification of the task on a card changes. -/
theorem undisturbed_notified (s : Scheduler) (c : Card) (now : Moment) :
    s.Undisturbed (s.modify c fun t => { t with lastNotified := some now }) := by
  exact ⟨map_modify fun t _ => rfl, rfl, rfl, rfl⟩

theorem undisturbed_deliver (s : Scheduler) (c : Card) (t : Task) (r : Record) :
    s.Undisturbed (s.deliver c t r) := by
  have hsent := s.undisturbed_send t r
  unfold deliver
  dsimp only
  generalize s.send t r = sent at hsent ⊢
  obtain ⟨_ | _ | _, s'⟩ := sent
  · exact hsent.trans (s'.undisturbed_surroundings _ _ _)
  · exact hsent
  · exact hsent.trans (s'.undisturbed_notified c _)

theorem undisturbed_notify (s : Scheduler) (c : Card) (t : Task) (r : Record) :
    s.Undisturbed (s.notify c t r).2 := by
  unfold notify
  split
  · exact .refl s
  · exact .refl s
  · exact s.undisturbed_deliver c t r

theorem undisturbed_announce (s : Scheduler) (live : Card) (t : Task) (r : Record) :
    s.Undisturbed (s.announce live t r).2 := by
  unfold announce
  split
  · exact .refl s
  · exact ((s.undisturbed_logEnd t r _).trans (undisturbed_tellEnded _ _ r)).trans
      (undisturbed_notify _ live _ r)

/-! ## Plans -/

theorem revises_modify {c : Card} {f : Task → Task}
    (h : ∀ t, s.task? c = some t → (f t).charter = t.charter) : s.Revises (s.modify c f) :=
  ⟨map_modify h, rfl, rfl, rfl⟩

/-- Planning the next run of the task on a card either changes this task or nothing. -/
theorem plan_cases (s : Scheduler) (c : Card) (now : Moment) :
    (∃ t t', s.task? c = some t ∧ t.planned now = .ok t' ∧
        s.plan c now = (.ok (), s.modify c fun _ => t')) ∨
      (s.plan c now).2 = s ∧ ∀ t t', s.task? c = some t → t.planned now ≠ .ok t' := by
  unfold plan
  cases ht : s.task? c with
  | none => exact .inr ⟨rfl, fun t t' h => nomatch h⟩
  | some t =>
    dsimp only
    cases hplan : t.planned now with
    | error f =>
      refine .inr ⟨rfl, fun u t' hu => ?_⟩
      cases hu
      rw [hplan]
      exact fun h => nomatch h
    | ok t' => exact .inl ⟨t, t', rfl, hplan, rfl⟩

theorem revises_plan (s : Scheduler) (c : Card) (now : Moment) : s.Revises (s.plan c now).2 := by
  obtain ⟨t, t', ht, hplan, h⟩ | ⟨h, -⟩ := s.plan_cases c now
  · rw [h]
    refine revises_modify fun u hu => ?_
    cases ht.symm.trans hu
    exact Task.charter_planned hplan
  · rw [h]
    exact .refl s

theorem revises_planAll (now : Moment) (cs : List Card) (s : Scheduler) :
    s.Revises (planAll now cs s).2 := by
  induction cs generalizing s with
  | nil => exact .refl s
  | cons c cs ih =>
    have hplan := s.revises_plan c now
    unfold planAll
    generalize s.plan c now = p at hplan ⊢
    obtain ⟨_ | _, s'⟩ := p
    · exact hplan
    · exact hplan.trans (ih s')

theorem revises_settle (s : Scheduler) (c : Card) (r : Record) : s.Revises (s.settle c r).2 := by
  unfold settle
  dsimp only
  have hkept := (s.undisturbed_surroundings s.desk (s.history.append r) s.messenger).revises
  refine Revises.trans ?_ (revises_plan _ _ _)
  exact hkept.trans (revises_modify fun t _ => rfl)

/-- A start plans the listed tasks anew at most. -/
theorem revises_start (s : Scheduler) : s.Revises s.start.2 := by
  have hplan := revises_planAll s.now s.listed s
  unfold start
  split
  · exact ⟨rfl, rfl, rfl, rfl⟩
  · generalize planAll s.now s.listed s = p at hplan ⊢
    obtain ⟨_ | _, s'⟩ := p
    · exact hplan
    · exact ⟨hplan.charters, hplan.listed, hplan.waiting, hplan.inFlight⟩

theorem undisturbed_stop (s : Scheduler) : s.Undisturbed s.stop := by
  unfold stop join
  split
  · split <;> exact ⟨rfl, rfl, rfl, rfl⟩
  · exact .refl s

/-! ## The list of tasks -/

theorem edits_add (s : Scheduler) (t : Task) : s.Edits (s.add t).2 := by
  unfold add
  split
  · exact .refl s
  · exact ⟨by simp [charters, info, enter], rfl, rfl⟩

theorem edits_remove (s : Scheduler) (id : String) : s.Edits (s.remove id).2 := by
  unfold remove
  split
  · exact .refl s
  · exact ⟨List.prefix_refl _, rfl, rfl⟩

theorem edits_update (s : Scheduler) (t : Task) : s.Edits (s.update t).2 := by
  unfold update
  split
  · exact .refl s
  · split
    · exact .refl s
    · exact ⟨by simp [charters, info, enter], rfl, rfl⟩

theorem edits_load (s : Scheduler) (path : String) : s.Edits (s.load path).2 := by
  unfold load
  dsimp only
  split
  · exact ⟨List.prefix_refl _, rfl, rfl⟩
  · exact ⟨by simp [charters, info, withMachine], rfl, rfl⟩

/-! ## Due tasks -/

/-- The cards that would be started at a moment. -/
def ready (s : Scheduler) (now : Moment) : List Card :=
  ((s.readyAmong now s.listed).toOption).getD []

/-- A task that is ready is due and not being run. -/
theorem isReady_eq_true {c : Card} {now : Moment} (h : s.isReady now c = .ok true) :
    ∃ t, s.task? c = some t ∧ t.isDue now = .ok true ∧ t.id ∉ s.inFlight := by
  unfold isReady at h
  cases ht : s.task? c with
  | none =>
    rw [ht] at h
    cases h
  | some t =>
    rw [ht] at h
    dsimp only at h
    cases hdue : t.isDue now with
    | error f =>
      rw [hdue] at h
      cases h
    | ok due =>
      rw [hdue] at h
      obtain ⟨rfl, hfree⟩ : due = true ∧ t.id ∉ s.inFlight := by
        simpa [Except.map] using h
      exact ⟨t, rfl, hdue, hfree⟩

theorem readyAmong_eq_ok {now : Moment} {cs ready : List Card} (h : s.readyAmong now cs = .ok ready) :
    ready.Sublist cs ∧ ∀ c ∈ ready, s.isReady now c = .ok true := by
  induction cs generalizing ready with
  | nil =>
    cases h
    exact ⟨List.Sublist.refl _, fun c hc => nomatch hc⟩
  | cons c cs ih =>
    unfold readyAmong at h
    cases hc : s.isReady now c with
    | error f =>
      rw [hc] at h
      cases h
    | ok b =>
      cases hcs : s.readyAmong now cs with
      | error f =>
        rw [hc, hcs] at h
        cases h
      | ok others =>
        rw [hc, hcs] at h
        obtain ⟨hsub, hall⟩ := ih hcs
        cases b with
        | false =>
          cases h
          exact ⟨hsub.cons c, hall⟩
        | true =>
          cases h
          exact ⟨hsub.cons_cons c, List.forall_mem_cons.mpr ⟨hc, hall⟩⟩

/-- The cards that are started are listed, and their tasks are ready. -/
theorem ready_sublist (s : Scheduler) (now : Moment) :
    (s.ready now).Sublist s.listed ∧ ∀ c ∈ s.ready now, s.isReady now c = .ok true := by
  unfold ready
  cases h : s.readyAmong now s.listed with
  | error f => exact ⟨List.nil_sublist _, fun c hc => nomatch hc⟩
  | ok cs => exact readyAmong_eq_ok h

/-- The identifier of the task on a card. -/
def idOf? (s : Scheduler) (c : Card) : Option String := (s.task? c).map Task.id

/-- A look at the tasks starts a worker for each card that is ready, and counts its task as being
run. -/
structure Starts (s : Scheduler) (ready : List Card) (s' : Scheduler) : Prop where
  /-- The tasks on the cards stay. -/
  cards : s'.cards = s.cards
  /-- The same cards are listed. -/
  listed : s'.listed = s.listed
  /-- The new workers wait behind the others. -/
  waiting : s'.waiting = s.waiting ++ ready
  /-- Their tasks count as being run. -/
  inFlight : s'.inFlight = (ready.filterMap s.idOf?).foldl occupy s.inFlight

/-- Workers started one after the other wait in this order. -/
theorem foldl_launch (due : List (Card × Task)) (s : Scheduler) :
    let s' := due.foldl (fun s d => s.launch d.1 d.2) s
    s'.cards = s.cards ∧ s'.listed = s.listed ∧ s'.waiting = s.waiting ++ due.map Prod.fst ∧
      s'.inFlight = s.inFlight := by
  induction due generalizing s with
  | nil => simp
  | cons d due ih =>
    obtain ⟨hcards, hlisted, hwaiting, hinFlight⟩ := ih (s.launch d.1 d.2)
    refine ⟨hcards, hlisted, ?_, hinFlight⟩
    rw [List.foldl_cons, hwaiting]
    exact List.append_assoc s.waiting [d.1] (due.map Prod.fst)

/-- Cards with tasks are all taken along with their tasks. -/
theorem map_fst_filterMap {cs : List Card} (h : ∀ c ∈ cs, ∃ t, s.task? c = some t) :
    (cs.filterMap fun c => (s.task? c).map fun t => (c, t)).map Prod.fst = cs := by
  induction cs with
  | nil => rfl
  | cons c cs ih =>
    obtain ⟨⟨t, ht⟩, hcs⟩ := List.forall_mem_cons.mp h
    rw [List.filterMap_cons, ht]
    exact congrArg (c :: ·) (ih hcs)

theorem starts_tick (s : Scheduler) (now : Moment) : s.Starts (s.ready now) (s.tick now).2 := by
  obtain ⟨-, hready⟩ := s.ready_sublist now
  unfold tick
  unfold ready at hready ⊢
  cases h : s.readyAmong now s.listed with
  | error f => exact ⟨rfl, rfl, by simp [Except.toOption], by simp [Except.toOption]⟩
  | ok cs =>
    rw [h] at hready
    change ∀ c ∈ cs, _ at hready
    dsimp only [Except.toOption, Option.getD_some]
    generalize hdue : cs.filterMap (fun c => (s.task? c).map fun t => (c, t)) = due
    have hcards : due.map Prod.fst = cs := by
      rw [← hdue]
      refine map_fst_filterMap fun c hc => ?_
      obtain ⟨t, ht, -⟩ := isReady_eq_true (hready c hc)
      exact ⟨t, ht⟩
    have hids : due.map (fun d => d.2.id) = cs.filterMap s.idOf? := by
      rw [← hdue, List.map_filterMap]
      refine congrArg (List.filterMap · cs) (funext fun c => ?_)
      unfold idOf?
      cases s.task? c <;> rfl
    obtain ⟨h₁, h₂, h₃, h₄⟩ := foldl_launch due
      { s with inFlight := due.foldl (fun ids d => occupy ids d.2.id) s.inFlight }
    refine ⟨h₁, h₂, h₃.trans (by rw [hcards]), h₄.trans ?_⟩
    rw [← hids, List.foldl_map]

end Scheduler

/-! ## All moves -/

namespace WorkerPool

variable {w : WorkerPool}

/-- No move changes what a task was taken on with. -/
theorem charters_step (w : WorkerPool) (m : Move) :
    w.scheduler.charters <+: (w.step m).scheduler.charters := by
  cases m with
  | add t => exact (w.scheduler.edits_add t).charters
  | update t => exact (w.scheduler.edits_update t).charters
  | remove id => exact (w.scheduler.edits_remove id).charters
  | load path => exact (w.scheduler.edits_load path).charters
  | clear => exact List.prefix_refl _
  | start => exact w.scheduler.revises_start.edits.charters
  | stop => exact w.scheduler.undisturbed_stop.revises.edits.charters
  | tick now =>
    have hcharters : (w.step (.tick now)).scheduler.charters = w.scheduler.charters :=
      congrArg (List.map Task.charter) (w.scheduler.starts_tick now).cards
    exact ⟨[], by rw [List.append_nil, hcharters]⟩
  | pass desk runner messenger => exact List.prefix_refl _
  | begin index =>
    change _ <+: (w.beginAt index).scheduler.charters
    unfold beginAt
    split
    · exact List.prefix_refl _
    · dsimp only
      split
      · exact List.prefix_refl _
      · exact ((w.scheduler.unwait index).undisturbed_openRun _).revises.edits.charters
  | note index result =>
    change _ <+: (w.noteAt index result).scheduler.charters
    unfold noteAt
    split
    next c t r hk =>
      exact ((w.scheduler.undisturbed_judge t result).revises.trans
        (Scheduler.revises_settle _ c _)).edits.charters
    next => exact List.prefix_refl _
  | leave index =>
    change _ <+: (w.leaveAt index).scheduler.charters
    unfold leaveAt
    split
    next c t r live hk =>
      have hannounced := (w.scheduler.undisturbed_announce live t r).revises.edits.charters
      dsimp only
      generalize w.scheduler.announce live t r = announced at hannounced ⊢
      obtain ⟨_ | _, s⟩ := announced <;> exact hannounced
    next => exact List.prefix_refl _
    next => exact List.prefix_refl _

/-- The task on a card is the one that was taken on, whatever moves are made. -/
theorem task?_after {c : Card} {t : Task} (ht : w.scheduler.task? c = some t) (ms : List Move) :
    ∃ t', (w.after ms).scheduler.task? c = some t' ∧ t'.charter = t.charter := by
  induction ms generalizing w t with
  | nil => exact ⟨t, ht, rfl⟩
  | cons m ms ih =>
    obtain ⟨more, hmore⟩ := w.charters_step m
    have hcharter : (w.step m).scheduler.charters[c]? = some t.charter := by
      have hbefore : w.scheduler.charters[c]? = some t.charter := by
        unfold Scheduler.charters
        rw [List.getElem?_map]
        exact congrArg (Option.map Task.charter) ht
      rw [← hmore, List.getElem?_append_left (List.getElem?_eq_some_iff.mp hbefore).1, hbefore]
    unfold Scheduler.charters at hcharter
    rw [List.getElem?_map] at hcharter
    obtain ⟨u, hu, hsame⟩ := Option.map_eq_some_iff.mp hcharter
    obtain ⟨t', ht', hlater⟩ := ih hu
    exact ⟨t', ht', hlater.trans hsame⟩

end WorkerPool

end Deskwork.Schedule
