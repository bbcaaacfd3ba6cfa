/-
# The Ledger

Every run that begins in a shared scheduler opens a record, and when the run is over, the record is
filed, exactly once. The ledger has the filed records since all records were forgotten last, in this
order, and the history of the scheduler is its end (`records_after`). The records that are opened are
those that are filed and those of the runs that are not over (`openings_after`), and a record that is
filed tells the outcome (`finished_ledger`).
-/
import Deskwork.Proofs.Logging
import Deskwork.Proofs.Schedule.SharedScheduler

namespace Deskwork.Schedule

open Deskwork.Time

/-! ## Records -/

namespace Record

variable {r : Record}

/-- A record is finished: it says when the run ended, and what went wrong just when something did. -/
structure Finished (r : Record) : Prop where
  /-- It says when the run ended. -/
  finish : r.finish.isSome = true
  /-- It has no reason of failure just when the run succeeded. -/
  success : r.error = none ↔ r.success = true
  /-- A reason has a wording. -/
  reason : r.error ≠ some ""

/-- The heading of a record: what is known when the run begins. -/
def heading (r : Record) : Record := { r with success := false, error := none, finish := none }

/-- The record of a run that is over is finished, when a fault that it ended with has a title. -/
theorem finished_concluded {result : Except Fault Verdict}
    (htitle : ∀ f, result = .error f → f.title ≠ "") (r : Record) (now : Moment) :
    (r.concluded result now).Finished := by
  cases result with
  | error f =>
    have hsummary : f.summary ≠ "" := by
      unfold Fault.summary
      by_cases hempty : f.message.isEmpty = true
      · rw [if_pos hempty]
        exact htitle f rfl
      · rw [if_neg hempty]
        exact fun h => hempty (String.isEmpty_iff.mpr h)
    exact ⟨rfl, ⟨fun h => (nomatch h), fun h => (nomatch h)⟩, fun h => hsummary (Option.some.inj h)⟩
  | ok v =>
    obtain ⟨success, why⟩ := v
    cases success with
    | true => exact ⟨rfl, ⟨fun _ => rfl, fun _ => rfl⟩, fun h => nomatch h⟩
    | false =>
      refine ⟨rfl, ⟨fun h => (nomatch h), fun h => (nomatch h)⟩, fun h => ?_⟩
      -- What is recorded of a failure without words has words.
      have hwords : (Notifier.nonempty? why).getD Scheduler.silentFailure = "" := Option.some.inj h
      cases hwhy : Notifier.nonempty? why with
      | none =>
        rw [hwhy] at hwords
        exact absurd hwords (by decide)
      | some text =>
        rw [hwhy] at hwords
        have hnonempty := (Option.filter_eq_some_iff.mp hwhy).2
        rw [Option.getD_some] at hwords
        rw [hwords] at hnonempty
        simp at hnonempty

end Record

/-! ## What is carried over -/

/-- What is carried over from one stretch to the next is balanced in the end when both stretches are. -/
theorem perm_carry {α : Type} {ins ins' outs outs' start middle finish : List α}
    (h : (ins ++ start).Perm (outs ++ middle)) (h' : (ins' ++ middle).Perm (outs' ++ finish)) :
    (ins ++ ins' ++ start).Perm (outs ++ outs' ++ finish) :=
  calc
    (ins ++ ins' ++ start).Perm (ins' ++ (ins ++ start)) :=
      List.append_assoc ins ins' start ▸ List.perm_append_comm_assoc ins ins' start
    List.Perm _ (ins' ++ (outs ++ middle)) := h.append_left ins'
    List.Perm _ (outs ++ (ins' ++ middle)) := List.perm_append_comm_assoc ins' outs middle
    List.Perm _ (outs ++ (outs' ++ finish)) := h'.append_left outs
    _ = outs ++ outs' ++ finish := (List.append_assoc outs outs' finish).symm

theorem History.records_append (h : History) (r : Record) :
    (h.append r).records = (h.records ++ [r]).rtake h.capacity := rfl

/-! ## Moves that keep the records -/

namespace Scheduler

theorem history_openRun (s : Scheduler) (t : Task) : (s.openRun t).2.history = s.history := by
  obtain ⟨desk, messenger, hopened⟩ := s.around_openRun t
  rw [hopened]

theorem history_planAll (now : Moment) (cs : List Card) (s : Scheduler) :
    (planAll now cs s).2.history = s.history := by
  induction cs generalizing s with
  | nil => rfl
  | cons c cs ih =>
    have hplan : (s.plan c now).2.history = s.history := by
      obtain ⟨t, t', -, -, h⟩ | ⟨h, -⟩ := s.plan_cases c now
      · rw [h]
        rfl
      · rw [h]
    unfold planAll
    generalize s.plan c now = p at hplan ⊢
    obtain ⟨_ | _, s'⟩ := p
    · exact hplan
    · exact (ih s').trans hplan

theorem history_start (s : Scheduler) : s.start.2.history = s.history := by
  have hplan := history_planAll s.now s.listed s
  unfold start
  split
  · rfl
  · generalize planAll s.now s.listed s = p at hplan ⊢
    obtain ⟨_ | _, s'⟩ := p <;> exact hplan

theorem history_tick (s : Scheduler) (now : Moment) : (s.tick now).2.history = s.history := by
  have hlaunch (due : List (Card × Task)) (s : Scheduler) :
      (due.foldl (fun s d => s.launch d.1 d.2) s).history = s.history := by
    induction due generalizing s with
    | nil => rfl
    | cons d due ih => exact ih (s.launch d.1 d.2)
  unfold tick
  split
  · rfl
  · exact hlaunch _ _

end Scheduler

namespace WorkerPool

variable {w : WorkerPool} {m : Move} {index : Nat} {k : Worker}

/-- The record that is opened when the waiting worker at an index begins. -/
def openingAt (w : WorkerPool) (index : Nat) : Option Record :=
  (w.scheduler.waiting[index]?).bind fun c =>
    (w.scheduler.task? c).map fun t => (w.scheduler.openRun t).1

/-- The record that is filed when the run of the worker at an index is noted. -/
def filingAt (w : WorkerPool) (index : Nat) (result : Except Fault Verdict) : Option Record :=
  (w.workers[index]?).bind fun k =>
    if k.stage.isRunning then some (k.record.concluded result w.now) else none

theorem filingAt_eq_some_iff {result : Except Fault Verdict} {r : Record} :
    w.filingAt index result = some r ↔
      ∃ k, w.workers[index]? = some k ∧ k.stage = .running ∧ k.record.concluded result w.now = r := by
  unfold filingAt
  rw [Option.bind_eq_some_iff]
  refine exists_congr fun k => and_congr_right fun _ => ?_
  obtain ⟨c, t, r', _ | outcome⟩ := k
  · exact Option.some_inj.trans ⟨fun h => ⟨rfl, h⟩, And.right⟩
  · exact ⟨fun h => (nomatch h), fun h => nomatch h.1⟩

/-- Where nothing is filed, nothing is noted. -/
theorem noteAt_of_filingAt_eq_none {result : Except Fault Verdict}
    (hnone : w.filingAt index result = none) : w.noteAt index result = w := by
  refine noteAt_of_not_running (fun k hk hrunning => ?_) result
  have hfiled : w.filingAt index result = some (k.record.concluded result w.now) :=
    filingAt_eq_some_iff.mpr ⟨k, hk, hrunning, rfl⟩
  cases hnone.symm.trans hfiled

/-- A record that is filed comes last in the history. -/
theorem Tidy.history_noteAt (h : w.Tidy) (index : Nat) (result : Except Fault Verdict) :
    (w.noteAt index result).scheduler.history =
      ((w.filingAt index result).elim w.scheduler.history w.scheduler.history.append) := by
  cases hfiling : w.filingAt index result with
  | none =>
    rw [noteAt_of_filingAt_eq_none hfiling]
    rfl
  | some r =>
    obtain ⟨k, hk, hrunning, rfl⟩ := filingAt_eq_some_iff.mp hfiling
    obtain ⟨desk, v, -, -, hnoted⟩ := noteAt_eq h hk hrunning result
    rw [hnoted]
    rfl

/-- No other move changes the records. -/
theorem history_step (hm : ∀ index result, m ≠ .note index result) :
    (w.step m).scheduler.history = w.scheduler.history := by
  cases m with
  | add t =>
    change (w.scheduler.add t).2.history = _
    rcases w.scheduler.add_cases t with hsame | ⟨v, message, -, hadded⟩
    · rw [hsame]
    · rw [hadded]
      rfl
  | update t =>
    change (w.scheduler.update t).2.history = _
    rcases w.scheduler.update_cases t with ⟨hsame, -⟩ | ⟨old, u, v, message, -, -, -, hupdated⟩
    · rw [hsame]
    · rw [hupdated]
      rfl
  | remove other =>
    change (w.scheduler.remove other).2.history = _
    unfold Scheduler.remove
    split <;> rfl
  | load path =>
    change (w.scheduler.load path).2.history = _
    unfold Scheduler.load
    dsimp only
    split <;> rfl
  | clear => rfl
  | start => exact w.scheduler.history_start
  | stop =>
    change w.scheduler.stop.history = _
    unfold Scheduler.stop Scheduler.join
    split
    · split <;> rfl
    · rfl
  | tick now => exact w.scheduler.history_tick now
  | pass desk runner messenger => rfl
  | begin index =>
    change (w.beginAt index).scheduler.history = _
    unfold beginAt
    split
    · rfl
    · dsimp only
      split
      · rfl
      next t ht =>
        exact (w.scheduler.unwait index).history_openRun t
  | note index result => exact absurd rfl (hm index result)
  | leave index =>
    change (w.leaveAt index).scheduler.history = _
    rcases w.leaveAt_cases index with hstays | ⟨k, desk, ids, -, -, hleft⟩
    · rw [hstays]
    · rw [hleft]
      exact w.scheduler.history_toldBy k

/-! ## Runs that are not over -/

/-- The workers among some whose runs are not over. -/
def ongoing (ks : List Worker) : List Worker := ks.filter fun k => k.stage.isRunning

/-- When the run of a worker is over, one run less is not over. -/
theorem ongoing_set {ks : List Worker} {k' : Worker} (hk : ks[index]? = some k)
    (hrunning : k.stage = .running) (hnoted : k'.stage.isRunning = false) :
    (ongoing ks).Perm (k :: ongoing (ks.set index k')) := by
  obtain ⟨hlt, hindex⟩ := List.getElem?_eq_some_iff.mp hk
  have hbefore := (List.getElem_cons_eraseIdx_perm hlt).filter fun k => k.stage.isRunning
  rw [hindex, List.filter_cons, hrunning] at hbefore
  have hafter := (List.set_perm_cons_eraseIdx hlt k').filter fun k => k.stage.isRunning
  rw [List.filter_cons, hnoted] at hafter
  exact hbefore.symm.trans (hafter.symm.cons k)

/-- When a worker that does not run is gone, the same runs are not over. -/
theorem ongoing_eraseIdx {ks : List Worker} (hk : ks[index]? = some k)
    (hnoted : k.stage.isRunning = false) :
    (ongoing (ks.eraseIdx index)).Perm (ongoing ks) := by
  obtain ⟨hlt, hindex⟩ := List.getElem?_eq_some_iff.mp hk
  have hperm := (List.getElem_cons_eraseIdx_perm hlt).filter fun k => k.stage.isRunning
  rw [hindex, List.filter_cons, hnoted] at hperm
  exact hperm

/-- The records of the workers among some whose runs are not over. -/
def openRecords (ks : List Worker) : List Record :=
  (ks.filter fun k => k.stage.isRunning).map Worker.record

/-- When a worker begins, the record that is opened is one more. -/
theorem openRecords_engage (w : WorkerPool) (c : Card) (t : Task) :
    openRecords (w.engage c t).workers = (w.scheduler.openRun t).1 :: openRecords w.workers := rfl

theorem openRecords_beginAt (w : WorkerPool) (index : Nat) :
    openRecords (w.beginAt index).workers = (w.openingAt index).toList ++ openRecords w.workers := by
  unfold openingAt beginAt
  cases w.scheduler.waiting[index]? with
  | none => rfl
  | some c =>
    dsimp only [Option.bind_some]
    -- The tasks on the cards are the same when the worker waits no longer.
    have hcard : (w.onScheduler fun s => s.unwait index).scheduler.task? c =
      w.scheduler.task? c := rfl
    rw [hcard]
    cases w.scheduler.task? c with
    | none => rfl
    | some t => exact openRecords_engage _ _ _

/-- When a run is noted, one record less is open: the one that is filed. -/
theorem Tidy.openRecords_noteAt (h : w.Tidy) (index : Nat) (result : Except Fault Verdict) :
    ((openRecords w.workers).map Record.heading).Perm
      (((w.filingAt index result).toList ++
        openRecords (w.noteAt index result).workers).map Record.heading) := by
  cases hfiling : w.filingAt index result with
  | none =>
    rw [noteAt_of_filingAt_eq_none hfiling]
    exact .refl _
  | some r =>
    obtain ⟨k, hk, hrunning, rfl⟩ := filingAt_eq_some_iff.mp hfiling
    obtain ⟨desk, v, -, -, hnoted⟩ := noteAt_eq h hk hrunning result
    rw [hnoted]
    exact ((ongoing_set hk hrunning rfl).map Worker.record).map Record.heading

theorem openRecords_leaveAt (w : WorkerPool) (index : Nat) :
    (openRecords (w.leaveAt index).workers).Perm (openRecords w.workers) := by
  rcases w.leaveAt_cases index with hstays | ⟨k, desk, ids, hk, hstage, hleft⟩
  · rw [hstays]
  · have hnoted : k.stage.isRunning = false := by
      cases hk' : k.stage with
      | running => exact absurd hk' hstage
      | noted outcome => rfl
    rw [hleft]
    exact (ongoing_eraseIdx hk hnoted).map Worker.record

theorem openRecords_partAt (w : WorkerPool) (index : Nat) :
    (openRecords (w.partAt index).workers).Perm (openRecords w.workers) := by
  rcases w.partAt_cases index with hstays | ⟨k, hk, hnoted, hparted⟩
  · rw [hstays]
  · rw [hparted]
    exact (ongoing_eraseIdx hk hnoted).map Worker.record

end WorkerPool

/-! ## The ledger -/

/-- A fault that a run ends with in an act has a title. -/
def Act.Titled : Act → Prop
  | .move (.note _ result) | .note _ result => ∀ f, result = .error f → f.title ≠ ""
  | _ => True

namespace SharedScheduler

variable {h : SharedScheduler} {a : Act} {as : List Act} {id : String} {k : Worker} {r : Record} {t : Task}

/-- The present moment. -/
def now (h : SharedScheduler) : Moment := h.scheduler.now

/-- The task that is listed under an identifier. -/
def get? (h : SharedScheduler) (id : String) : Option Task := h.scheduler.get? id

/-- The records that are kept. -/
def records (h : SharedScheduler) : List Record := h.scheduler.history.records

/-- The record that is opened in an act, when a run begins. -/
def opening (h : SharedScheduler) : Act → Option Record
  | .move (.begin index) => h.pool.openingAt index
  | .call c => (h.scheduler.task? c).map fun t => (h.scheduler.openRun t).1
  | _ => none

/-- The record that is filed in an act, when a run is over. -/
def filing (h : SharedScheduler) : Act → Option Record
  | .move (.note index result) => h.pool.filingAt index result
  | .note index result => h.callerPool.filingAt index result
  | _ => none

/-- The records that are opened in some acts, in order. -/
def openings : SharedScheduler → List Act → List Record
  | _, [] => []
  | h, a :: as => (h.opening a).toList ++ (h.step a).openings as

/-- The records that are filed in some acts, in order. -/
def filings : SharedScheduler → List Act → List Record
  | _, [] => []
  | h, a :: as => (h.filing a).toList ++ (h.step a).filings as

/-- The ledger after an act: what is filed comes last, and when all records are forgotten, it is begun
anew. -/
def booked (h : SharedScheduler) (book : List Record) : Act → List Record
  | .forget => []
  | a => book ++ (h.filing a).toList

/-- The ledger after some acts. -/
def ledger : SharedScheduler → List Record → List Act → List Record
  | _, book, [] => book
  | h, book, a :: as => (h.step a).ledger (h.booked book a) as

/-- The records of the runs that are not over. -/
def underway (h : SharedScheduler) : List Record :=
  WorkerPool.openRecords h.pool.workers ++ WorkerPool.openRecords h.callers

/-! ## The history -/

/-- The history after an act has the record that was filed. -/
theorem Tidy.history_step (ht : h.Tidy) (ha : a ≠ .forget) :
    (h.step a).scheduler.history =
      ((h.filing a).elim h.scheduler.history h.scheduler.history.append) := by
  cases a with
  | move m =>
    cases m with
    | note index result => exact ht.pool.history_noteAt index result
    | _ => exact WorkerPool.history_step fun index result hm => nomatch hm
  | forget => exact absurd rfl ha
  | bring t => rfl
  | call c =>
    change (h.callOn c).scheduler.history = _
    unfold callOn
    split
    · rfl
    next t htask =>
      exact h.scheduler.history_openRun t
  | note index result => exact ht.callerPool.history_noteAt index result
  | leave index =>
    change (h.callerPool.partAt index).scheduler.history = _
    rcases h.callerPool.partAt_cases index with hstays | ⟨k, -, -, hparted⟩
    · rw [hstays]
      rfl
    · rw [hparted]
      exact h.scheduler.history_toldBy k

/-- The history stays the end of the ledger. -/
theorem Tidy.records_step (ht : h.Tidy) {book : List Record}
    (hbook : h.records = book.rtake h.scheduler.history.capacity) (a : Act) :
    (h.step a).records = (h.booked book a).rtake (h.step a).scheduler.history.capacity ∧
      (h.step a).scheduler.history.capacity = h.scheduler.history.capacity := by
  by_cases hforget : a = .forget
  · subst hforget
    exact ⟨(List.rtake_nil _).symm, rfl⟩
  · have hbooked : h.booked book a = book ++ (h.filing a).toList := by
      cases a with
      | forget => exact absurd rfl hforget
      | _ => rfl
    have hhistory := ht.history_step hforget
    unfold records at hbook ⊢
    rw [hhistory, hbooked]
    cases h.filing a with
    | none =>
      refine ⟨?_, rfl⟩
      change h.scheduler.history.records = (book ++ []).rtake h.scheduler.history.capacity
      rw [List.append_nil]
      exact hbook
    | some r =>
      refine ⟨?_, rfl⟩
      change (h.scheduler.history.append r).records =
        (book ++ [r]).rtake h.scheduler.history.capacity
      rw [History.records_append, hbook, rtake_append_rtake]

/-- The history is the end of the ledger. -/
theorem Tidy.records_after (ht : h.Tidy) (has : h.Apart as) {book : List Record}
    (hbook : h.records = book.rtake h.scheduler.history.capacity) :
    (h.after as).records = (h.ledger book as).rtake h.scheduler.history.capacity := by
  induction as generalizing h book with
  | nil => exact hbook
  | cons a as ih =>
    obtain ⟨hbooked, hcapacity⟩ := ht.records_step hbook a
    have hlater := ih (ht.step has.1) has.2 hbooked
    rw [hcapacity] at hlater
    exact hlater

/-! ## Openings and filings -/

/-- An act opens a record, files one, or neither: the records of the runs that are not over are kept
in balance. -/
theorem Tidy.openings_step (ht : h.Tidy) (a : Act) :
    (((h.opening a).toList ++ h.underway).map Record.heading).Perm
      (((h.filing a).toList ++ (h.step a).underway).map Record.heading) := by
  have hsame (hunderway : (h.step a).underway.Perm h.underway) (hopening : h.opening a = none)
      (hfiling : h.filing a = none) :
      (((h.opening a).toList ++ h.underway).map Record.heading).Perm
        (((h.filing a).toList ++ (h.step a).underway).map Record.heading) := by
    rw [hopening, hfiling]
    exact hunderway.symm.map _
  cases a with
  | move m =>
    cases m with
    | begin index =>
      have hbegun := h.pool.openRecords_beginAt index
      change (((h.pool.openingAt index).toList ++ (WorkerPool.openRecords h.pool.workers ++
        WorkerPool.openRecords h.callers)).map Record.heading).Perm
          ((WorkerPool.openRecords (h.pool.beginAt index).workers ++
            WorkerPool.openRecords h.callers).map Record.heading)
      rw [hbegun, List.append_assoc]
    | note index result =>
      have hnoted := ht.pool.openRecords_noteAt index result
      change (h.underway.map Record.heading).Perm (((h.pool.filingAt index result).toList ++
        (WorkerPool.openRecords (h.pool.noteAt index result).workers ++
          WorkerPool.openRecords h.callers)).map Record.heading)
      unfold underway
      rw [← List.append_assoc, List.map_append, List.map_append]
      exact hnoted.append_right _
    | leave index => exact hsame ((h.pool.openRecords_leaveAt index).append_right _) rfl rfl
    | _ => exact hsame (.refl _) rfl rfl
  | forget => exact hsame (.refl _) rfl rfl
  | bring t => exact hsame (.refl _) rfl rfl
  | call c =>
    change ((((h.scheduler.task? c).map fun t => (h.scheduler.openRun t).1).toList ++
      h.underway).map Record.heading).Perm ((h.callOn c).underway.map Record.heading)
    unfold callOn
    cases h.scheduler.task? c with
    | none => exact .refl _
    | some t =>
      refine List.Perm.map _ ?_
      change ((h.scheduler.openRun t).1 :: h.underway).Perm
        (WorkerPool.openRecords h.pool.workers ++ WorkerPool.openRecords (h.callerPool.engage c t).workers)
      rw [WorkerPool.openRecords_engage]
      exact List.perm_middle.symm
  | note index result =>
    have hnoted := ht.callerPool.openRecords_noteAt index result
    change (h.underway.map Record.heading).Perm (((h.callerPool.filingAt index result).toList ++
      (WorkerPool.openRecords h.pool.workers ++
        WorkerPool.openRecords (h.callerPool.noteAt index result).workers)).map Record.heading)
    unfold underway
    rw [List.map_append, List.map_append, List.map_append]
    rw [List.map_append] at hnoted
    exact (hnoted.append_left _).trans (List.perm_append_comm_assoc _ _ _)
  | leave index => exact hsame ((h.callerPool.openRecords_partAt index).append_left _) rfl rfl

/-- The records that are opened are those that are filed and those of the runs that are not over, each
of them once. -/
theorem Tidy.openings_after (ht : h.Tidy) (has : h.Apart as) :
    ((h.openings as ++ h.underway).map Record.heading).Perm
      ((h.filings as ++ (h.after as).underway).map Record.heading) := by
  induction as generalizing h with
  | nil => exact .refl _
  | cons a as ih =>
    have hstep := ht.openings_step a
    have hlater := ih (ht.step has.1) has.2
    unfold openings filings
    rw [List.map_append] at hstep hlater ⊢
    rw [List.map_append] at hstep hlater ⊢
    rw [List.map_append, List.map_append]
    exact perm_carry hstep hlater

/-! ## Outcomes -/

/-- A record that is filed is finished. -/
theorem finished_filing (ha : a.Titled) (hr : h.filing a = some r) : r.Finished := by
  have hnoted {w : WorkerPool} {index : Nat} {result : Except Fault Verdict}
      (htitle : ∀ f, result = .error f → f.title ≠ "") (hr : w.filingAt index result = some r) :
      r.Finished := by
    obtain ⟨k, -, -, rfl⟩ := WorkerPool.filingAt_eq_some_iff.mp hr
    exact k.record.finished_concluded htitle w.now
  cases a with
  | move m =>
    cases m with
    | note index result => exact hnoted ha hr
    | _ => cases hr
  | note index result => exact hnoted ha hr
  | _ => cases hr

/-- The records of a ledger stay finished. -/
theorem finished_ledger {book : List Record} (hbook : ∀ r ∈ book, r.Finished)
    (has : ∀ a ∈ as, a.Titled) : ∀ r ∈ h.ledger book as, r.Finished := by
  induction as generalizing h book with
  | nil => exact hbook
  | cons a as ih =>
    refine ih ?_ fun b hb => has b (List.mem_cons_of_mem _ hb)
    have hbooked : ∀ r ∈ book ++ (h.filing a).toList, r.Finished := by
      intro r hr
      rcases List.mem_append.mp hr with hold | hnew
      · exact hbook r hold
      · exact finished_filing (has a List.mem_cons_self) (Option.mem_toList.mp hnew)
    cases a with
    | forget => exact fun r hr => nomatch hr
    | _ => exact hbooked

end SharedScheduler

end Deskwork.Schedule
