/-
# The Shared Scheduler

A scheduler is shared by the workers that it starts for due tasks and by callers that run a task by
themselves, listed or not. A caller begins, its run is noted when it is over, and it leaves; in between,
others do what they like (`SharedScheduler.after`). A caller that is not interrupted does what
`Scheduler.execute` does (`after_call`). As long as no two listed tasks have the same identifier, workers and
callers are about the tasks on their cards, and the tasks in flight are those of the unfinished workers
(`SharedScheduler.Tidy`).
-/
import Deskwork.Proofs.Schedule.Roster

namespace Deskwork.Schedule

open Deskwork.Time

/-! ## Acts -/

/-- A worker pool with callers, who run tasks by themselves. -/
structure SharedScheduler where
  pool : WorkerPool
  /-- The callers that have begun and not left. -/
  callers : List Worker

/-- What happens in a shared scheduler. -/
inductive Act where
  | move (m : Move)
  /-- All records are forgotten. -/
  | forget
  /-- A task is put on a card without being listed. -/
  | bring (t : Task)
  | call (c : Card)
  | note (index : Nat) (result : Except Fault Verdict)
  | leave (index : Nat)

namespace WorkerPool

/-- The worker at an index leaves without having been counted. -/
def partAt (w : WorkerPool) (index : Nat) : WorkerPool :=
  match w.workers[index]? with
  | some k =>
    if k.stage.isRunning then w else ⟨w.scheduler.toldBy k, w.workers.eraseIdx index⟩
  | none => w

/-- The worker that has begun last is noted and leaves as a run is closed. -/
theorem partAt_noteAt (s : Scheduler) (ks : List Worker) (c : Card) (t : Task) (r : Record)
    (result : Except Fault Verdict) :
    ((⟨s, ⟨c, t, r, .running⟩ :: ks⟩ : WorkerPool).noteAt 0 result).partAt 0 =
      ⟨(s.closeRun c t r result).2, ks⟩ := by
  unfold noteAt
  dsimp only [List.getElem?_cons_zero, List.set_cons_zero]
  unfold Scheduler.closeRun
  dsimp only
  cases h : (s.judge t result).2.settle c (r.closed (s.judge t result).1.1 (s.judge t result).1.2
    (s.judge t result).2.now) with
  | mk outcome s' =>
    cases outcome with
    | error f => rfl
    | ok live => rfl

end WorkerPool

namespace SharedScheduler

variable {h : SharedScheduler} {a : Act} {as : List Act} {id : String}

/-- The scheduler of the shared scheduler. -/
def scheduler (h : SharedScheduler) : Scheduler := h.pool.scheduler

/-- The callers with the scheduler. -/
def callerPool (h : SharedScheduler) : WorkerPool := ⟨h.scheduler, h.callers⟩

/-- The scheduler of the shared scheduler changed. -/
def onScheduler (h : SharedScheduler) (f : Scheduler → Scheduler) : SharedScheduler :=
  { h with pool := h.pool.onScheduler f }

/-- The shared scheduler after something happened among the callers. -/
def withCallers (h : SharedScheduler) (p : WorkerPool) : SharedScheduler :=
  ⟨⟨p.scheduler, h.pool.workers⟩, p.workers⟩

/-- A caller begins to run the task on a card, if there is one. -/
def callOn (h : SharedScheduler) (c : Card) : SharedScheduler :=
  match h.scheduler.task? c with
  | none => h
  | some t => h.withCallers (h.callerPool.engage c t)

/-- A shared scheduler after an act. -/
def step (h : SharedScheduler) : Act → SharedScheduler
  | .move m => { h with pool := h.pool.step m }
  | .forget => h.onScheduler Scheduler.clearHistory
  | .bring t => h.onScheduler fun s => (s.enter t).2
  | .call c => h.callOn c
  | .note index result => h.withCallers (h.callerPool.noteAt index result)
  | .leave index => h.withCallers (h.callerPool.partAt index)

/-- A shared scheduler after some acts. -/
def after (h : SharedScheduler) (as : List Act) : SharedScheduler := as.foldl step h

@[simp]
theorem after_nil (h : SharedScheduler) : h.after [] = h := rfl

@[simp]
theorem after_cons (h : SharedScheduler) (a : Act) (as : List Act) :
    h.after (a :: as) = (h.step a).after as := rfl

theorem after_append (h : SharedScheduler) (as bs : List Act) :
    h.after (as ++ bs) = (h.after as).after bs := List.foldl_append

/-! ## Callers without interruption -/

/-- A caller that is not interrupted runs a task from the beginning to the end. Its run may be anything
that happens in the shared scheduler. -/
theorem after_call {run : Run} {c : Card} {t : Task} (ht : h.scheduler.task? c = some t)
    (hrun : (h.step (.call c)).after as = (h.step (.call c)).onScheduler fun s => (run t s).2) :
    h.after (.call c :: as ++ [.note 0 (run t (h.step (.call c)).scheduler).1, .leave 0]) =
      h.onScheduler fun s => (s.execute run c t).2 := by
  have hcalled : h.callOn c = h.withCallers (h.callerPool.engage c t) := by
    unfold callOn
    rw [ht]
  have hexecute : (h.scheduler.execute run c t).2 =
      ((run t (h.scheduler.openRun t).2).2.closeRun c t (h.scheduler.openRun t).1
        (run t (h.scheduler.openRun t).2).1).2 := rfl
  rw [List.cons_append, after_cons, after_append, hrun]
  change SharedScheduler.after ((h.callOn c).onScheduler fun s => (run t s).2)
    [.note 0 (run t (h.callOn c).scheduler).1, .leave 0] = _
  rw [hcalled]
  have hclosed := WorkerPool.partAt_noteAt (run t (h.scheduler.openRun t).2).2 h.callers c t
    (h.scheduler.openRun t).1 (run t (h.scheduler.openRun t).2).1
  rw [← hexecute] at hclosed
  exact congrArg (fun p => (⟨⟨p.scheduler, h.pool.workers⟩, p.workers⟩ : SharedScheduler)) hclosed

/-! ## Tidy shared schedulers -/

/-- The listed tasks have different identifiers, workers and callers are about the tasks on their cards,
and the unfinished workers are accounted for. -/
structure Tidy (h : SharedScheduler) : Prop where
  /-- The worker pool is tidy. -/
  pool : h.pool.Tidy
  /-- Every caller is about the task on its card. -/
  callers : ∀ k ∈ h.callers, k.Fits h.scheduler
  /-- The unfinished workers are accounted for. -/
  accounted : h.pool.Accounted

/-- An act keeps the identifiers of the listed tasks apart. -/
def Separates (h : SharedScheduler) : Act → Prop
  | .move m => h.pool.Separates m
  | _ => True

theorem Tidy.callerPool (ht : h.Tidy) : h.callerPool.Tidy := ⟨ht.pool.distinct, ht.callers⟩

/-- A shared scheduler is tidy when nobody has begun and the listed tasks have different identifiers. -/
theorem tidy_of_idle (hidle : h.pool.Idle) (hcallers : h.callers = [])
    (hdistinct : h.scheduler.Distinct) : h.Tidy :=
  ⟨hidle.tidy hdistinct, fun _ hk => (nomatch (hcallers ▸ hk)), hidle.accounted⟩

/-- What happens among the callers leaves the workers alone: it changes the tasks on the cards, and the
records, at most. -/
theorem Tidy.withCallers (ht : h.Tidy) {p : WorkerPool} (hp : p.Tidy)
    (hedits : h.scheduler.Edits p.scheduler) : (h.withCallers p).Tidy :=
  ⟨⟨hp.distinct, fun k hk => (ht.pool.fits k hk).of_charters hedits.charters⟩, hp.fits,
    ht.accounted.of_edits hedits rfl⟩

end SharedScheduler

/-- A task on a new card leaves the others as they are. -/
theorem Scheduler.edits_enter (s : Scheduler) (t : Task) : s.Edits (s.enter t).2 :=
  ⟨by simp [charters, enter], rfl, rfl⟩

namespace WorkerPool

variable {w : WorkerPool}

/-- A worker that begins on a card changes the surroundings only. -/
theorem tidy_engage (h : w.Tidy) {c : Card} {t : Task} (ht : w.scheduler.task? c = some t) :
    (w.engage c t).Tidy := by
  have hopened := (w.scheduler.undisturbed_openRun t).revises
  refine ⟨h.distinct.of_charters hopened.edits.charters (hopened.listed ▸ List.Sublist.refl _),
    fun k hk => ?_⟩
  rcases fits_engage ht k hk with hold | hnew
  · exact (h.fits k hold).of_charters hopened.edits.charters
  · exact hnew.of_charters hopened.edits.charters

theorem edits_noteAt (w : WorkerPool) (index : Nat) (result : Except Fault Verdict) :
    w.scheduler.Edits (w.noteAt index result).scheduler := by
  unfold noteAt
  split
  next c t r hk =>
    exact ((w.scheduler.undisturbed_judge t result).revises.trans
      (Scheduler.revises_settle _ c _)).edits
  next => exact .refl _

/-- A worker that leaves without having been counted tells about its run first. -/
theorem partAt_cases (w : WorkerPool) (index : Nat) :
    w.partAt index = w ∨ ∃ k, w.workers[index]? = some k ∧ k.stage.isRunning = false ∧
      w.partAt index = ⟨w.scheduler.toldBy k, w.workers.eraseIdx index⟩ := by
  unfold partAt
  split
  next k hk =>
    cases hrunning : k.stage.isRunning with
    | true => exact .inl rfl
    | false => exact .inr ⟨k, hk, hrunning, rfl⟩
  next => exact .inl rfl

theorem tidy_partAt (h : w.Tidy) (index : Nat) :
    (w.partAt index).Tidy ∧ w.scheduler.Edits (w.partAt index).scheduler := by
  rcases w.partAt_cases index with hstays | ⟨k, -, -, hparted⟩
  · rw [hstays]
    exact ⟨h, .refl _⟩
  · have htold := (w.scheduler.undisturbed_toldBy k).revises
    rw [hparted]
    exact ⟨⟨h.distinct.of_charters htold.edits.charters (htold.listed ▸ List.Sublist.refl _),
      fun k' hk' => (h.fits k' (List.mem_of_mem_eraseIdx hk')).of_charters htold.edits.charters⟩,
      htold.edits⟩

end WorkerPool

namespace SharedScheduler

variable {h : SharedScheduler} {a : Act} {as : List Act} {id : String}

/-- Acts that keep the identifiers apart keep a shared scheduler tidy. -/
theorem Tidy.step (ht : h.Tidy) (ha : h.Separates a) : (h.step a).Tidy := by
  cases a with
  | move m =>
    exact ⟨ht.pool.step ha, fun k hk => (ht.callers k hk).of_charters (h.pool.charters_step m),
      ht.accounted.step fun now _ => WorkerPool.nodup_startedIds ht.pool.distinct.ids now⟩
  | forget =>
    exact ⟨⟨⟨ht.pool.distinct.placed, ht.pool.distinct.ids⟩, fun k hk =>
      (ht.pool.fits k hk).of_charters (List.prefix_refl _)⟩, fun k hk =>
        (ht.callers k hk).of_charters (List.prefix_refl _),
      ht.accounted.of_edits ⟨List.prefix_refl _, rfl, rfl⟩ rfl⟩
  | bring t =>
    have hedits := h.scheduler.edits_enter t
    have hdistinct : (h.scheduler.enter t).2.Distinct :=
      ht.pool.distinct.of_charters hedits.charters (List.Sublist.refl _)
    exact ⟨⟨hdistinct, fun k hk => (ht.pool.fits k hk).of_charters hedits.charters⟩, fun k hk =>
      (ht.callers k hk).of_charters hedits.charters, ht.accounted.of_edits hedits rfl⟩
  | call c =>
    change (h.callOn c).Tidy
    unfold callOn
    split
    · exact ht
    next t htask =>
      exact ht.withCallers (WorkerPool.tidy_engage ht.callerPool htask)
        (h.scheduler.undisturbed_openRun t).revises.edits
  | note index result =>
    exact ht.withCallers (ht.callerPool.step (m := .note index result) trivial)
      (h.callerPool.edits_noteAt index result)
  | leave index =>
    obtain ⟨htidy, hedits⟩ := WorkerPool.tidy_partAt ht.callerPool index
    exact ht.withCallers htidy hedits

/-- All acts keep the identifiers of the listed tasks apart. -/
def Apart : SharedScheduler → List Act → Prop
  | _, [] => True
  | h, a :: as => h.Separates a ∧ (h.step a).Apart as

theorem apart_append {as bs : List Act} :
    h.Apart (as ++ bs) ↔ h.Apart as ∧ (h.after as).Apart bs := by
  induction as generalizing h with
  | nil => simp [Apart]
  | cons a as ih => rw [List.cons_append, after_cons, Apart, Apart, ih, and_assoc]

theorem Tidy.after (ht : h.Tidy) (has : h.Apart as) : (h.after as).Tidy := by
  induction as generalizing h with
  | nil => exact ht
  | cons a as ih => exact ih (ht.step has.1) has.2

end SharedScheduler

end Deskwork.Schedule
