/-
# Bookkeeping

Runs may begin, be over and be told about in any order, by workers and callers, while tasks are dropped,
put in place of others and taken on, and records are forgotten. A run that is noted renews the listed
task with its identifier (`Scheduler.Renews`), and nothing else that belongs to a call disturbs the list,
except that a notification may be noted (`Scheduler.Spares`). Together with the ledger and the account of
the workers, this is what a shared scheduler has in order after any acts
(`SharedScheduler.after_bookkept`).
-/
import Deskwork.Proofs.Schedule.Ledger

namespace Deskwork.Schedule

open Deskwork.Time

/-! ## Changes of the list -/

namespace Scheduler

/-- From one scheduler to the other, the listed task that a record is about is renewed: it ran last when
the run of the record began, and its next run is planned by the clock, when it can be told. No other
task is changed, and the list stays in order. -/
structure Renews (s s' : Scheduler) (r : Record) : Prop where
  /-- The same cards are listed in the same order. -/
  listed : s'.listed = s.listed
  /-- The other listed tasks are not changed. -/
  others : ∀ id, id ≠ r.taskId → s'.get? id = s.get? id
  /-- The listed task is renewed. -/
  renewed : ∀ t next, s.get? r.taskId = some t → (t.ranAt r.start).nextRunAt s.now = .ok next →
    s'.get? r.taskId = some { t with lastRun := some r.start, nextRun := next }
  /-- A task that is not listed is not put back. -/
  absent : s.get? r.taskId = none → s'.get? r.taskId = none

/-- From one scheduler to the other, the listed tasks are not changed, except that a notification may be
noted about the task of a worker that leaves. -/
structure Spares (s s' : Scheduler) (leaver : Option Worker) : Prop where
  /-- The same cards are listed in the same order. -/
  listed : s'.listed = s.listed
  /-- The listed tasks stay as they are, but for a notification. -/
  tasks : ∀ id, s'.get? id = s.get? id ∨ ∃ k, leaver = some k ∧ id = k.task.id ∧
    s'.get? id = (s.get? id).map fun t => t.notifiedAt s.now

theorem Spares.refl (s : Scheduler) (leaver : Option Worker) : s.Spares s leaver :=
  ⟨rfl, fun _ => .inl rfl⟩

end Scheduler

/-- A move takes on a task with an identifier, or may do so. -/
def Move.Admits (m : Move) (id : String) : Prop :=
  match m with
  | .add t => t.id = id
  | .load _ => True
  | _ => False

namespace WorkerPool

variable {w : WorkerPool} {m : Move} {index : Nat} {id : String} {r : Record}

/-- When the run of a worker is noted, the listed task with its identifier is renewed. -/
theorem Tidy.renews_noteAt (h : w.Tidy) {result : Except Fault Verdict}
    (hr : w.filingAt index result = some r) :
    w.scheduler.Renews (w.noteAt index result).scheduler r := by
  obtain ⟨k, hk, hrunning, rfl⟩ := filingAt_eq_some_iff.mp hr
  have htask : k.record.taskId = k.task.id := (h.fits k (List.mem_of_getElem? hk)).record
  have hafter (id : String) := h.get?_noteAt hk hrunning result id
  refine ⟨listed_step (m := .note index result) trivial, fun id hid => ?_, fun t next ht hnext => ?_,
    fun hnone => ?_⟩
  · exact (hafter id).trans (if_neg fun heq => hid (heq.trans htask.symm))
  · have hplanned := Task.planned_eq_ok_iff.mpr ⟨next, hnext, rfl⟩
    have hrenewed := hafter k.record.taskId
    rw [if_pos htask] at hrenewed
    refine hrenewed.trans ((congrArg (Option.map _) ht).trans (congrArg some ?_))
    exact Task.replanned_of_ok hplanned
  · have hrenewed := hafter k.record.taskId
    rw [if_pos htask] at hrenewed
    exact hrenewed.trans (congrArg (Option.map _) hnone)

theorem spares_beginAt (w : WorkerPool) (index : Nat) :
    w.scheduler.Spares (w.beginAt index).scheduler none :=
  ⟨listed_step (m := .begin index) trivial, fun id => .inl (w.get?_beginAt index id)⟩

theorem Tidy.spares_leaveAt (h : w.Tidy) (index : Nat) :
    w.scheduler.Spares (w.leaveAt index).scheduler w.workers[index]? :=
  ⟨listed_step (m := .leave index) trivial, fun id => h.get?_leaveAt index id⟩

theorem Tidy.spares_partAt (h : w.Tidy) (index : Nat) :
    w.scheduler.Spares (w.partAt index).scheduler w.workers[index]? := by
  rcases w.partAt_cases index with hstays | ⟨k, hk, -, hparted⟩
  · rw [hstays]
    exact .refl _ _
  · rw [hparted, hk]
    refine ⟨(w.scheduler.undisturbed_toldBy k).listed, fun id => ?_⟩
    rcases h.get?_toldBy (List.mem_of_getElem? hk) id with hsilent | hnotified
    · exact .inl hsilent
    · exact .inr ⟨k, rfl, hnotified⟩

/-- An identifier that is not listed stays so, unless a move takes on a task with it. -/
theorem Tidy.get?_step_eq_none (h : w.Tidy) (hm : w.Separates m) (hadmits : ¬ m.Admits id)
    (hnone : w.get? id = none) : (w.step m).get? id = none := by
  have hsmaller (hlisted : (w.step m).scheduler.listed.Sublist w.scheduler.listed) :
      (w.step m).get? id = none :=
    h.distinct.get?_eq_none_of_charters (w.charters_step m) hlisted hnone
  have hsame (hstays : m.Stays) : (w.step m).get? id = none :=
    hsmaller (listed_step (w := w) hstays ▸ List.Sublist.refl _)
  cases m with
  | add t => exact (h.distinct.get?_add hm fun heq => hadmits heq.symm).trans hnone
  | update t =>
    have hids := h.isSome_get?_step (.inr ⟨t, rfl⟩) id
    rw [hnone, Option.isSome_none] at hids
    exact Option.isSome_eq_false_iff.mp hids |> Option.isNone_iff_eq_none.mp
  | remove other => exact hsmaller (w.scheduler.remove_spec other).2
  | load path => exact absurd trivial hadmits
  | clear => exact hsmaller (List.nil_sublist _)
  | _ => exact hsame trivial

end WorkerPool

/-! ## Acts of a call -/

namespace Act

/-- An act takes on a task with an identifier, or may do so. -/
def Admits (a : Act) (id : String) : Prop :=
  match a with
  | .move m => m.Admits id
  | _ => False

/-- An act belongs to a call by which a task is run. -/
def Serves : Act → Prop
  | .move (.begin _) | .move (.note ..) | .move (.leave _) | .call _ | .note .. | .leave _ => True
  | _ => False

end Act

namespace SharedScheduler

variable {h : SharedScheduler} {a : Act} {as : List Act} {id : String} {r : Record}

/-- Who leaves in an act. -/
def leaver (h : SharedScheduler) : Act → Option Worker
  | .move (.leave index) => h.pool.workers[index]?
  | .leave index => h.callers[index]?
  | _ => none

/-- When a record is filed, the listed task that it is about is renewed. -/
theorem Tidy.renews_step (ht : h.Tidy) (hr : h.filing a = some r) :
    h.scheduler.Renews (h.step a).scheduler r := by
  cases a with
  | move m =>
    cases m with
    | note index result => exact ht.pool.renews_noteAt hr
    | _ => cases hr
  | note index result => exact ht.callerPool.renews_noteAt hr
  | _ => cases hr

/-- When no record is filed, a call does not disturb the listed tasks. -/
theorem Tidy.spares_step (ht : h.Tidy) (ha : a.Serves) (hnone : h.filing a = none) :
    h.scheduler.Spares (h.step a).scheduler (h.leaver a) := by
  have hunnoted {w : WorkerPool} {index : Nat} {result : Except Fault Verdict}
      (hnone : w.filingAt index result = none) :
      w.scheduler.Spares (w.noteAt index result).scheduler none := by
    rw [WorkerPool.noteAt_of_filingAt_eq_none hnone]
    exact .refl _ _
  cases a with
  | move m =>
    cases m with
    | begin index => exact h.pool.spares_beginAt index
    | note index result => exact hunnoted hnone
    | leave index => exact ht.pool.spares_leaveAt index
    | _ => exact ha.elim
  | call c =>
    change h.scheduler.Spares (h.callOn c).scheduler none
    unfold callOn
    split
    · exact .refl _ _
    next t htask =>
      exact ⟨(h.scheduler.undisturbed_openRun t).listed, fun id =>
        .inl (congrFun (h.scheduler.around_openRun t).get? id)⟩
  | note index result => exact hunnoted hnone
  | leave index => exact ht.callerPool.spares_partAt index
  | forget | bring => exact ha.elim

/-- An identifier that is not listed stays so, unless an act takes on a task with it. -/
theorem Tidy.get?_step_eq_none (ht : h.Tidy) (ha : h.Separates a) (hadmits : ¬ a.Admits id)
    (hnone : h.get? id = none) : (h.step a).get? id = none := by
  have hsame {s : Scheduler} (hcharters : h.scheduler.charters <+: s.charters)
      (hlisted : s.listed = h.scheduler.listed) : s.get? id = none :=
    ht.pool.distinct.get?_eq_none_of_charters hcharters (hlisted ▸ List.Sublist.refl _) hnone
  cases a with
  | move m => exact ht.pool.get?_step_eq_none ha hadmits hnone
  | forget => exact hsame (List.prefix_refl _) rfl
  | bring t => exact hsame (h.scheduler.edits_enter t).charters rfl
  | call c =>
    change (h.callOn c).get? id = none
    unfold callOn
    split
    · exact hnone
    next t htask =>
      have hopened := (h.scheduler.undisturbed_openRun t).revises
      exact hsame hopened.edits.charters hopened.listed
  | note index result =>
    exact ht.callerPool.get?_step_eq_none (m := .note index result) trivial not_false hnone
  | leave index =>
    exact hsame (WorkerPool.tidy_partAt ht.callerPool index).2.charters
      (ht.callerPool.spares_partAt index).listed

theorem Tidy.get?_after_eq_none (ht : h.Tidy) (has : h.Apart as) (hadmits : ∀ a ∈ as, ¬ a.Admits id)
    (hnone : h.get? id = none) : (h.after as).get? id = none := by
  induction as generalizing h with
  | nil => exact hnone
  | cons a as ih =>
    have hnone' := ht.get?_step_eq_none has.1 (hadmits a List.mem_cons_self) hnone
    exact ih (ht.step has.1) has.2 (fun b hb => hadmits b (List.mem_cons_of_mem _ hb)) hnone'

/-! ## Books in order -/

/-- What is in order in a shared scheduler after some acts, and stays so in the next one. -/
structure Bookkept (h : SharedScheduler) (as : List Act) : Prop where
  /-- The history is the end of the ledger. -/
  history : (h.after as).records = (h.ledger h.records as).rtake h.scheduler.history.capacity
  /-- Every record that is kept is finished. -/
  finished : ∀ r ∈ (h.after as).records, r.Finished
  /-- The records that were opened are those that were filed and those of the runs that are not over,
  each of them once. -/
  once : ((h.openings as).map Record.heading).Perm
    ((h.filings as ++ (h.after as).underway).map Record.heading)
  /-- The tasks in flight are those of the workers that were started and have not left. -/
  inFlight : (h.after as).scheduler.inFlight.Perm (h.after as).pool.busy
  /-- None of them is in flight twice. -/
  apart : (h.after as).pool.busy.Nodup
  /-- When a record is filed, the listed task that it is about is renewed. -/
  renews : ∀ a r, (h.after as).filing a = some r →
    (h.after as).scheduler.Renews ((h.after as).step a).scheduler r
  /-- Otherwise a call does not disturb the listed tasks. -/
  spares : ∀ a : Act, a.Serves → (h.after as).filing a = none →
    (h.after as).scheduler.Spares ((h.after as).step a).scheduler ((h.after as).leaver a)
  /-- A task that was dropped is not put back, unless one with its identifier is taken on. -/
  gone : ∀ front id back, as = front ++ .move (.remove id) :: back → (∀ a ∈ back, ¬ a.Admits id) →
    (h.after as).get? id = none

/-- In a shared scheduler without workers and callers whose records are finished, the books are in order after
any acts that keep the identifiers of the listed tasks apart, whatever the runs come to. -/
theorem after_bookkept (hidle : h.pool.Idle) (hcallers : h.callers = [])
    (hdistinct : h.scheduler.Distinct) (hfinished : ∀ r ∈ h.records, r.Finished)
    (hapart : h.Apart as) (htitled : ∀ a ∈ as, a.Titled) : h.Bookkept as := by
  have ht := tidy_of_idle hidle hcallers hdistinct
  have hafter := ht.after hapart
  have hbook : h.records = h.records.rtake h.scheduler.history.capacity := by
    unfold List.rtake records
    rw [Nat.sub_eq_zero_of_le h.scheduler.history.fits, List.drop_zero]
  have hhistory := ht.records_after hapart hbook
  have hnobody : h.underway = [] := by
    unfold underway
    rw [hidle.workers, hcallers]
    rfl
  have honce := ht.openings_after hapart
  rw [hnobody, List.append_nil] at honce
  refine ⟨hhistory, fun r hr => ?_, honce, hafter.accounted.inFlight, hafter.accounted.apart,
    fun a r hr => hafter.renews_step hr, fun a ha hnone => hafter.spares_step ha hnone, ?_⟩
  · rw [hhistory] at hr
    exact finished_ledger hfinished htitled r (List.mem_of_mem_drop hr)
  · rintro front id back rfl hadmits
    obtain ⟨hfront, hback⟩ := apart_append.mp hapart
    have hfront' := ht.after hfront
    rw [after_append, after_cons]
    exact (hfront'.step hback.1).get?_after_eq_none hback.2 hadmits
      (hfront'.pool.distinct.get?_remove_self id)

instance (h : SharedScheduler) (a : Act) : Decidable (h.Separates a) :=
  match a with
  | .move m => inferInstanceAs (Decidable (h.pool.Separates m))
  | .forget | .bring _ | .call _ | .note .. | .leave _ => .isTrue trivial

instance decidableApart : (h : SharedScheduler) → (as : List Act) → Decidable (h.Apart as)
  | _, [] => .isTrue trivial
  | h, a :: as => @instDecidableAnd _ _ inferInstance (decidableApart (h.step a) as)

/-- A shared scheduler at a moment, in which no task was taken on. -/
def quiet (now : Moment) : SharedScheduler := ⟨WorkerPool.vacant now, []⟩

/-- A task is taken on and dropped while a caller runs it, which fails without words. -/
def droppedInFlight : List Act :=
  [.move (.add (WorkerPool.halfHourly "t1" "a")), .call 0, .move (.remove "t1"),
    .note 0 (.ok (false, none)), .leave 0]

/-- The run is recorded with its reason, and the task is not put back. -/
theorem after_bookkept_droppedInFlight :
    (quiet ⟨0, none, by decide⟩).Bookkept droppedInFlight ∧
      ((quiet ⟨0, none, by decide⟩).after droppedInFlight).get? "t1" = none ∧
      ((quiet ⟨0, none, by decide⟩).after droppedInFlight).records.map (fun r => (r.taskId, r.error)) =
        [("t1", some "Script execution failed")] := by
  have htitled : ∀ a ∈ droppedInFlight, a.Titled := by
    simp [droppedInFlight, Act.Titled]
  have hbooks : (quiet ⟨0, none, by decide⟩).Bookkept droppedInFlight :=
    after_bookkept ⟨rfl, rfl, rfl⟩ rfl (by decide) (fun r hr => nomatch hr) (by decide +kernel) htitled
  refine ⟨hbooks, ?_, by decide +kernel⟩
  exact hbooks.gone [.move (.add (WorkerPool.halfHourly "t1" "a")), .call 0] "t1" _ rfl
    (by simp [Act.Admits])

end SharedScheduler

end Deskwork.Schedule
