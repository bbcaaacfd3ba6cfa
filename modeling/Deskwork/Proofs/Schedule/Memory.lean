/-
# What Tasks Remember

A listed task remembers when it ran last and when a notification about it was delivered last. While the
due tasks are started, workers come and go and tasks are updated by copies of listed tasks that were
taken earlier, the clock passes what is remembered, and a run that is noted began after all that is
remembered of earlier runs (`Chronicle`). So nothing is forgotten by the runs. An update, however, takes
over from the listed task only what the copy does not bring along: the listed tasks remember all they
should if and only if no update brings an earlier moment than the listed task remembers
(`remembers_iff`).
-/
import Deskwork.Proofs.Schedule.Roster
import Deskwork.Proofs.Schedule.Spacing

namespace Deskwork.Schedule

open Deskwork.Time

/-! ## Memory -/

/-- A moment that is remembered is not forgotten: it stays, or a later one takes its place. -/
def Remembers (old new : Option Moment) : Prop :=
  ∀ m, old = some m → ∃ n, new = some n ∧ m.NotAfter n

theorem Remembers.refl (old : Option Moment) : Remembers old old :=
  fun m h => ⟨m, h, .refl m⟩

theorem Remembers.trans {a b c : Option Moment} (h : Remembers a b) (h' : Remembers b c) :
    Remembers a c := by
  intro l hl
  obtain ⟨m, hm, hlm⟩ := h l hl
  obtain ⟨n, hn, hmn⟩ := h' m hm
  exact ⟨n, hn, hlm.trans hmn⟩

/-- What a moment takes over from is remembered when the moment is not behind it, or is missing. -/
theorem remembers_or_iff {old new : Option Moment} :
    Remembers old (new.or old) ↔ ∀ n, new = some n → Remembers old (some n) := by
  cases new with
  | none => exact ⟨fun _ n h => (nomatch h), fun _ => .refl old⟩
  | some n =>
    constructor
    · rintro h _ ⟨⟩
      exact h
    · exact fun h => h n rfl

namespace Task

/-- What a task remembers has passed. -/
structure Passed (t : Task) (now : Moment) : Prop where
  /-- Its last run began before. -/
  run : ∀ m, t.lastRun = some m → m.NotAfter now
  /-- Its last notification was delivered before. -/
  notified : ∀ m, t.lastNotified = some m → m.NotAfter now

variable {t t' u : Task} {now later start : Moment}

theorem Passed.mono (h : t.Passed now) (hle : now.NotAfter later) : t.Passed later :=
  ⟨fun m hm => (h.run m hm).trans hle, fun m hm => (h.notified m hm).trans hle⟩

/-- A task that is planned anew remembers the same. -/
theorem remembered_planned (h : t.planned now = .ok t') :
    t'.lastRun = t.lastRun ∧ t'.lastNotified = t.lastNotified := by
  obtain ⟨next, -, rfl⟩ := planned_eq_ok_iff.mp h
  exact ⟨rfl, rfl⟩

/-- A task that is renewed remembers when the run began. -/
theorem remembered_renewed (t : Task) (start now : Moment) :
    (t.renewed start now).lastRun = some start ∧
      (t.renewed start now).lastNotified = t.lastNotified := by
  unfold renewed
  rw [replanned_eq]
  exact ⟨rfl, rfl⟩

end Task

/-- A move belongs to the routine: it is an update, or it leaves the list of tasks alone. -/
def Move.Routine (m : Move) : Prop := m.Stays ∨ ∃ u, m = .update u

theorem Move.Routine.separates {m : Move} (h : m.Routine) (w : WorkerPool) : w.Separates m := by
  rcases h with h | ⟨u, rfl⟩
  · cases m with
    | add | load => exact h.elim
    | _ => trivial
  · trivial

theorem Move.Routine.not_drops {m : Move} (h : m.Routine) (id : String) : ¬ m.Drops id := by
  rcases h with h | ⟨u, rfl⟩
  · cases m with
    | remove | load | clear => exact h.elim
    | _ => exact not_false
  · exact not_false

namespace WorkerPool

variable {w : WorkerPool} {m : Move} {ms front : List Move} {id : String} {t t' u : Task} {k : Worker}

/-! ## Routine moves -/

/-- A task that is listed after a move of the routine was listed before. -/
theorem Tidy.exists_change (h : w.Tidy) (hm : m.Routine) (ht' : (w.step m).get? id = some t') :
    ∃ t, w.get? id = some t ∧ w.Change m id t t' := by
  have hlisted : (w.get? id).isSome = true := by
    rw [← h.isSome_get?_step hm, ht']
    rfl
  obtain ⟨t, ht⟩ := Option.isSome_iff_exists.mp hlisted
  rcases h.change (hm.separates w) ht with ⟨t'', ht'', hchange⟩ | hdrops
  · cases ht'.symm.trans ht''
    exact ⟨t, ht, hchange⟩
  · exact absurd hdrops (hm.not_drops id)

/-- A worker that runs after a move was running before, or has just begun. -/
theorem running_cases (hk : k ∈ (w.step m).workers) (hrunning : k.stage = .running) :
    k ∈ w.workers ∨ (∃ index, m = .begin index) ∧ k.record.start = w.now := by
  cases m with
  | begin index =>
    change k ∈ (w.beginAt index).workers at hk
    unfold beginAt at hk
    split at hk
    · exact .inl hk
    · dsimp only at hk
      split at hk
      · exact .inl hk
      · rcases List.mem_cons.mp hk with rfl | hk
        · exact .inr ⟨⟨index, rfl⟩, rfl⟩
        · exact .inl hk
  | note index result =>
    rcases w.noteAt_cases index result with ⟨hstays, -⟩ | ⟨k', r, outcome, -, -, hworkers, -⟩
    · exact .inl (by
        change k ∈ (w.noteAt index result).workers at hk
        rwa [hstays] at hk)
    · change k ∈ (w.noteAt index result).workers at hk
      rw [hworkers] at hk
      rcases List.mem_or_eq_of_mem_set hk with hk | rfl
      · exact .inl hk
      · cases hrunning
  | leave index => exact .inl ((w.workers_leaveAt index).1 hk)
  | _ => exact .inl hk

/-- While a worker runs, no other run of a task with its identifier is noted. -/
theorem Accounted.ne_of_noted (h : w.Accounted) {index : Nat} {result : Except Fault Verdict}
    {k' : Worker} (hindex : w.workers[index]? = some k') (hrunning' : k'.stage = .running)
    (hk : k ∈ (w.step (.note index result)).workers) (hrunning : k.stage = .running) :
    k.task.id ≠ k'.task.id := by
  intro hid
  rcases w.noteAt_cases index result with ⟨-, hnone⟩ | ⟨k'', r, outcome, hk'', -, hworkers, -⟩
  · exact hnone k' hindex hrunning'
  · cases hindex.symm.trans hk''
    change k ∈ (w.noteAt index result).workers at hk
    rw [hworkers] at hk
    obtain ⟨j, hj⟩ := List.mem_iff_getElem?.mp hk
    rw [List.getElem?_set] at hj
    by_cases heq : index = j
    · subst heq
      rw [if_pos rfl, if_pos (List.getElem?_eq_some_iff.mp hindex).1] at hj
      cases hj
      cases hrunning
    · rw [if_neg heq] at hj
      -- Two workers with one identifier would be counted twice.
      have hnodup := (List.nodup_append.mp h.apart).2.1
      have hlt : index < (w.workers.map fun k => k.task.id).length := by
        rw [List.length_map]
        exact (List.getElem?_eq_some_iff.mp hindex).1
      refine heq ((List.getElem?_inj hlt hnodup).mp ?_)
      rw [List.getElem?_map, List.getElem?_map, hindex, hj]
      exact congrArg some hid.symm

/-! ## The chronicle -/

/-- A task brings along what a listed task with its identifier remembered earlier. -/
def Copied (w : WorkerPool) (front : List Move) (u : Task) : Prop :=
  ∃ early t, early <+: front ∧ (w.after early).get? u.id = some t ∧ u.lastRun = t.lastRun ∧
    u.lastNotified = t.lastNotified

/-- After some moves, the clock has passed all that listed tasks have ever remembered, and so has the
beginning of each run for the runs of its task. -/
structure Chronicle (w : WorkerPool) (front : List Move) : Prop where
  /-- The worker pool is tidy. -/
  tidy : (w.after front).Tidy
  /-- The unfinished workers are accounted for. -/
  accounted : (w.after front).Accounted
  /-- What listed tasks have remembered has passed. -/
  passed : ∀ early id t, early <+: front → (w.after early).get? id = some t →
    t.Passed (w.after front).now
  /-- A run began after what its task has remembered of earlier runs. -/
  begun : ∀ k ∈ (w.after front).workers, k.stage = .running →
    k.record.start.NotAfter (w.after front).now ∧ ∀ early t m, early <+: front →
      (w.after early).get? k.task.id = some t → t.lastRun = some m → m.NotAfter k.record.start

namespace Chronicle

theorem ofIdle (h : w.Idle) (hdistinct : w.scheduler.Distinct)
    (hpassed : ∀ id t, w.get? id = some t → t.Passed w.now) : w.Chronicle [] := by
  refine ⟨h.tidy hdistinct, h.accounted, fun early id t hearly ht => ?_, fun k hk => ?_⟩
  · rw [List.prefix_nil.mp hearly] at ht
    exact hpassed id t ht
  · rw [after_nil, h.workers] at hk
    exact nomatch hk

/-- What a listed task remembers after a move has passed. -/
theorem passed_step (h : w.Chronicle front) (hm : m.Routine)
    (hcopied : ∀ u, m = .update u → w.Copied front u)
    (ht' : ((w.after front).step m).get? id = some t') : t'.Passed (w.after front).now := by
  obtain ⟨t, ht, hchange⟩ := h.tidy.exists_change hm ht'
  have hold := h.passed front id t (List.prefix_refl _) ht
  rcases hchange with rfl | ⟨-, hplanned⟩ | ⟨u, rfl, hid, hplanned⟩ |
    ⟨index, result, k, rfl, hk, hrunning, -, rfl⟩ | ⟨index, k, rfl, -, -, rfl⟩
  · exact hold
  · obtain ⟨hrun, hnotified⟩ := Task.remembered_planned hplanned
    exact ⟨hrun ▸ hold.run, hnotified ▸ hold.notified⟩
  · obtain ⟨hrun, hnotified⟩ := Task.remembered_planned hplanned
    obtain ⟨early, v, hearly, hv, hrun', hnotified'⟩ := hcopied u rfl
    have hcopy := h.passed early u.id v hearly hv
    refine ⟨fun m hm => ?_, fun m hm => ?_⟩
    · rw [hrun] at hm
      rcases Option.or_eq_some_iff.mp hm with hm | ⟨-, hm⟩
      · exact hcopy.run m (hrun' ▸ hm)
      · exact hold.run m hm
    · rw [hnotified] at hm
      rcases Option.or_eq_some_iff.mp hm with hm | ⟨-, hm⟩
      · exact hcopy.notified m (hnotified' ▸ hm)
      · exact hold.notified m hm
  · obtain ⟨hrun, hnotified⟩ := t.remembered_renewed k.record.start (w.after front).now
    refine ⟨fun m hm => ?_, hnotified ▸ hold.notified⟩
    rw [hrun] at hm
    cases hm
    exact (h.begun k (List.mem_of_getElem? hk) hrunning).1
  · refine ⟨hold.run, fun m hm => ?_⟩
    cases hm
    exact .refl _

/-- A run that goes on after a move began after what its task has remembered of earlier runs. -/
theorem begun_step (h : w.Chronicle front) (hm : m.Routine)
    (hcopied : ∀ u, m = .update u → w.Copied front u) {early : List Move}
    (hk : k ∈ ((w.after front).step m).workers) (hrunning : k.stage = .running)
    (hearly : early <+: front ++ [m]) (ht' : (w.after early).get? k.task.id = some t')
    {l : Moment} (hl : t'.lastRun = some l) : l.NotAfter k.record.start := by
  rcases running_cases hk hrunning with hold | ⟨⟨index, rfl⟩, hstart⟩
  · obtain ⟨-, hbegun⟩ := h.begun k hold hrunning
    rcases List.prefix_concat_iff.mp hearly with rfl | hearly
    · rw [after_concat] at ht'
      obtain ⟨t, ht, hchange⟩ := h.tidy.exists_change hm ht'
      have hstays (hrun : t'.lastRun = t.lastRun) : l.NotAfter k.record.start :=
        hbegun front t l (List.prefix_refl _) ht (hrun ▸ hl)
      rcases hchange with rfl | ⟨-, hplanned⟩ | ⟨u, rfl, hid, hplanned⟩ |
        ⟨index, result, k', rfl, hk', hrunning', hid, -⟩ | ⟨index, k', rfl, -, -, rfl⟩
      · exact hstays rfl
      · exact hstays (Task.remembered_planned hplanned).1
      · obtain ⟨early, v, hearly, hv, hrun, -⟩ := hcopied u rfl
        rw [(Task.remembered_planned hplanned).1] at hl
        rcases Option.or_eq_some_iff.mp hl with hl | ⟨-, hl⟩
        · exact hbegun early v l hearly (hid ▸ hv) (hrun ▸ hl)
        · exact hbegun front t l (List.prefix_refl _) ht hl
      · exact absurd hid.symm (h.accounted.ne_of_noted hk' hrunning' hk hrunning)
      · exact hstays rfl
    · exact hbegun early t' l hearly ht' hl
  · rw [hstart]
    rcases List.prefix_concat_iff.mp hearly with rfl | hearly
    · rw [after_concat] at ht'
      exact (h.passed_step hm hcopied ht').run l hl
    · exact (h.passed early _ t' hearly ht').run l hl

/-- A routine move goes on with the chronicle when the clock does not go back. -/
theorem step (h : w.Chronicle front) (hm : m.Routine)
    (hcopied : ∀ u, m = .update u → w.Copied front u)
    (hclock : (w.after front).now.NotAfter ((w.after front).step m).now) :
    w.Chronicle (front ++ [m]) := by
  refine ⟨?_, ?_, fun early id t hearly ht => ?_, fun k hk hrunning => ?_⟩
  · rw [after_concat]
    exact h.tidy.step (hm.separates _)
  · rw [after_concat]
    exact h.accounted.step fun now _ => nodup_startedIds h.tidy.distinct.ids now
  · rw [after_concat]
    refine Task.Passed.mono ?_ hclock
    rcases List.prefix_concat_iff.mp hearly with rfl | hearly
    · rw [after_concat] at ht
      exact h.passed_step hm hcopied ht
    · exact h.passed early id t hearly ht
  · rw [after_concat] at hk ⊢
    refine ⟨?_, fun early t l hearly ht hl => h.begun_step hm hcopied hk hrunning hearly ht hl⟩
    rcases running_cases hk hrunning with hold | ⟨-, hstart⟩
    · exact (h.begun k hold hrunning).1.trans hclock
    · exact hstart ▸ hclock

end Chronicle

/-- The clock does not go back in a move. -/
theorem clock_step {back : List Move}
    (hclock : (w.readings (front ++ m :: back)).IsChain Moment.NotAfter) :
    (w.after front).now.NotAfter ((w.after front).step m).now := by
  have hsuffix := hclock.suffix (w.suffix_readings front (m :: back))
  exact List.rel_of_pairwise_cons hsuffix.pairwise (mem_readings _ _)

/-- Every update is made by a copy of a listed task that was taken earlier. -/
def Copies (w : WorkerPool) (ms : List Move) : Prop :=
  ∀ front u back, ms = front ++ .update u :: back → w.Copied front u

/-- An update that is made last by such a copy, after moves without updates. -/
theorem copies_concat (hms : ∀ v, .update v ∉ ms) (h : w.Copied ms u) :
    w.Copies (ms ++ [.update u]) := by
  intro front v back heq
  rcases List.eq_nil_or_concat' back with rfl | ⟨back, last, rfl⟩
  · obtain ⟨rfl, hv⟩ := List.append_inj' heq rfl
    cases hv
    exact h
  · -- The update would be one of the moves before the last one.
    rw [← List.cons_append, ← List.append_assoc] at heq
    obtain ⟨rfl, -⟩ := List.append_inj' heq rfl
    exact absurd (List.mem_append_right _ List.mem_cons_self) (hms v)

/-- The chronicle goes on over all moves. -/
theorem Chronicle.after (h : w.Chronicle []) (hroutine : ∀ m ∈ ms, m.Routine) (hcopies : w.Copies ms)
    (hclock : (w.readings ms).IsChain Moment.NotAfter) (hfront : front <+: ms) :
    w.Chronicle front := by
  induction front using List.reverseRecOn with
  | nil => exact h
  | append_singleton front m ih =>
    obtain ⟨back, rfl⟩ := hfront
    rw [List.append_assoc, List.singleton_append] at *
    refine (ih (List.prefix_append _ _)).step (hroutine m (by simp)) ?_ (clock_step hclock)
    rintro u rfl
    exact hcopies front u back rfl

/-! ## What is not forgotten -/

/-- An update brings no earlier moment than the listed task remembers. -/
structure UpToDate (u t : Task) : Prop where
  /-- The last run that it brings is not behind the one that is remembered. -/
  run : ∀ n, u.lastRun = some n → Remembers t.lastRun (some n)
  /-- Nor is the last notification that it brings. -/
  notified : ∀ n, u.lastNotified = some n → Remembers t.lastNotified (some n)

/-- In a move that goes on with the chronicle, a listed task forgets nothing, unless an update brings
earlier moments. -/
theorem Chronicle.remembers_step (h : w.Chronicle front) (hm : m.Routine)
    (hfresh : ∀ u, m = .update u → (w.after front).get? u.id = some t →
      ((w.after front).scheduler.update u).1 = .ok true → UpToDate u t)
    (ht : (w.after front).get? id = some t) :
    ∃ t', ((w.after front).step m).get? id = some t' ∧ Remembers t.lastRun t'.lastRun ∧
      Remembers t.lastNotified t'.lastNotified := by
  rcases h.tidy.change (hm.separates _) ht with ⟨t', ht', hchange⟩ | hdrops
  · refine ⟨t', ht', ?_⟩
    have hpassed := h.passed front id t (List.prefix_refl _) ht
    rcases hchange with rfl | ⟨-, hplanned⟩ | ⟨u, rfl, hid, hplanned⟩ |
      ⟨index, result, k, rfl, hk, hrunning, hid, rfl⟩ | ⟨index, k, rfl, -, -, rfl⟩
    · exact ⟨.refl _, .refl _⟩
    · obtain ⟨hrun, hnotified⟩ := Task.remembered_planned hplanned
      exact ⟨hrun ▸ .refl _, hnotified ▸ .refl _⟩
    · subst hid
      rcases h.tidy.distinct.get?_update ht with ⟨hdone, hplanned', hafter⟩ | ⟨-, hafter⟩
      · have hdate := hfresh u rfl ht hdone
        obtain ⟨hrun, hnotified⟩ := Task.remembered_planned hplanned
        rw [hrun, hnotified]
        exact ⟨remembers_or_iff.mpr hdate.run, remembers_or_iff.mpr hdate.notified⟩
      · cases hafter.symm.trans ht'
        exact ⟨.refl _, .refl _⟩
    · obtain ⟨hrun, hnotified⟩ := t.remembered_renewed k.record.start (w.after front).now
      rw [hrun, hnotified]
      refine ⟨fun l hl => ⟨k.record.start, rfl, ?_⟩, .refl _⟩
      have hbegun := (h.begun k (List.mem_of_getElem? hk) hrunning).2
      exact hbegun front t l (List.prefix_refl _) (hid ▸ ht) hl
    · exact ⟨.refl _, fun l hl => ⟨_, rfl, hpassed.notified l hl⟩⟩
  · exact absurd hdrops (hm.not_drops id)

/-- While the routine goes on, updates are made by copies of listed tasks and the clock never goes
back, what a listed task remembers is never forgotten and never replaced by an earlier moment if and
only if no update brings an earlier moment than the task remembers that it replaces. -/
theorem remembers_iff (hidle : w.Idle) (hdistinct : w.scheduler.Distinct)
    (hpassed : ∀ id t, w.get? id = some t → t.Passed w.now) (hroutine : ∀ m ∈ ms, m.Routine)
    (hcopies : w.Copies ms) (hclock : (w.readings ms).IsChain Moment.NotAfter) :
    (∀ early late id t, early <+: late → late <+: ms → (w.after early).get? id = some t →
        ∃ t', (w.after late).get? id = some t' ∧ Remembers t.lastRun t'.lastRun ∧
          Remembers t.lastNotified t'.lastNotified) ↔
      ∀ front u back t, ms = front ++ .update u :: back → (w.after front).get? u.id = some t →
        ((w.after front).scheduler.update u).1 = .ok true → UpToDate u t := by
  have hchronicle {front : List Move} (hfront : front <+: ms) : w.Chronicle front :=
    (Chronicle.ofIdle hidle hdistinct hpassed).after hroutine hcopies hclock hfront
  constructor
  · rintro hall front u back t rfl ht hdone
    have hlate : front ++ [Move.update u] <+: front ++ .update u :: back :=
      ⟨back, by rw [List.append_assoc, List.singleton_append]⟩
    obtain ⟨t', ht', hrun, hnotified⟩ :=
      hall front (front ++ [.update u]) u.id t (List.prefix_append _ _) hlate ht
    rw [after_concat] at ht'
    have hdistinct' := (hchronicle (List.prefix_append front _)).tidy.distinct
    rcases hdistinct'.get?_update ht with ⟨-, hplanned, hafter⟩ | ⟨hfails, -⟩
    · cases hafter.symm.trans ht'
      obtain ⟨hrun', hnotified'⟩ := Task.remembered_planned hplanned
      rw [hrun'] at hrun
      rw [hnotified'] at hnotified
      exact ⟨remembers_or_iff.mp hrun, remembers_or_iff.mp hnotified⟩
    · exact absurd hdone hfails
  · rintro hfresh early late id t ⟨moves, rfl⟩ hlate ht
    induction moves using List.reverseRecOn with
    | nil =>
      rw [List.append_nil]
      exact ⟨t, ht, .refl _, .refl _⟩
    | append_singleton moves m ih =>
      rw [← List.append_assoc] at hlate ⊢
      obtain ⟨back, hback⟩ := hlate
      rw [List.append_assoc, List.singleton_append] at hback
      have hbefore : early ++ moves <+: ms := hback ▸ List.prefix_append _ _
      obtain ⟨t', ht', hrun, hnotified⟩ := ih hbefore
      obtain ⟨t'', ht'', hrun', hnotified'⟩ := (hchronicle hbefore).remembers_step
        (hroutine m (by rw [← hback]; simp))
        (fun u hu hu' hdone => hfresh (early ++ moves) u back t' (hu ▸ hback.symm) hu' hdone) ht'
      rw [after_concat]
      exact ⟨t'', ht'', hrun.trans hrun', hnotified.trans hnotified'⟩

/-- A worker pool that has taken on a task that runs every half an hour. -/
def lodged : WorkerPool := (vacant dawn).step (.add (halfHourly "t1" "a"))

/-- The task runs twice, half an hour apart. -/
def twoRuns : List Move := [.tick dawn] ++ lap halfPast ++ [.tick halfPast] ++ lap halfPast

/-- A copy of the task that was taken after its first run, with another name. -/
def staleCopy : Task := { halfHourly "t1" "b" with lastRun := some dawn }

/-- When the copy is put in its place after the second run, the second run is forgotten. -/
theorem remembers_iff_staleCopy :
    ((lodged.after twoRuns).get? "t1").map Task.lastRun = some (some halfPast) ∧
      ((lodged.after (twoRuns ++ [.update staleCopy])).get? "t1").map Task.lastRun =
        some (some dawn) ∧
      ¬ ∀ early late id t, early <+: late → late <+: twoRuns ++ [.update staleCopy] →
        (lodged.after early).get? id = some t →
          ∃ t', (lodged.after late).get? id = some t' ∧ Remembers t.lastRun t'.lastRun ∧
            Remembers t.lastNotified t'.lastNotified := by
  have htwice : ((lodged.after twoRuns).get? "t1").map Task.lastRun = some (some halfPast) := by
    decide +kernel
  have hpassed (id : String) (t : Task) (ht : lodged.get? id = some t) : t.Passed lodged.now := by
    obtain ⟨c, -, hc⟩ := Option.bind_eq_some_iff.mp ht
    have hnew : ∀ t ∈ lodged.scheduler.cards, t.lastRun = none ∧ t.lastNotified = none := by
      decide +kernel
    obtain ⟨hrun, hnotified⟩ := hnew t (List.mem_of_getElem? hc)
    exact ⟨fun m hm => (nomatch hrun.symm.trans hm), fun m hm => (nomatch hnotified.symm.trans hm)⟩
  have hcopied : lodged.Copied twoRuns staleCopy := by
    have hfirst : ((lodged.after ([.tick dawn] ++ lap halfPast)).get? "t1").map
        (fun t => (t.lastRun, t.lastNotified)) = some (some dawn, none) := by decide +kernel
    obtain ⟨t, ht, hsame⟩ := Option.map_eq_some_iff.mp hfirst
    obtain ⟨hrun, hnotified⟩ := Prod.mk.inj hsame
    exact ⟨_, t, ⟨[.tick halfPast] ++ lap halfPast, by simp [twoRuns]⟩, ht, hrun.symm, hnotified.symm⟩
  have hstays : ∀ m ∈ twoRuns, m.Stays := by simp [twoRuns, lap, Move.Stays]
  have hroutine : ∀ m ∈ twoRuns ++ [.update staleCopy], m.Routine := by
    intro m hm
    rcases List.mem_append.mp hm with hm | hm
    · exact .inl (hstays m hm)
    · exact .inr ⟨staleCopy, List.mem_singleton.mp hm⟩
  refine ⟨htwice, by decide +kernel, fun hall => ?_⟩
  have hfresh := (remembers_iff (by exact ⟨rfl, rfl, rfl⟩) (by decide +kernel) hpassed hroutine
    (copies_concat (fun v hv => hstays _ hv) hcopied) (by decide +kernel)).mp hall
  obtain ⟨t, ht, hrun⟩ := Option.map_eq_some_iff.mp htwice
  have hdate := hfresh twoRuns staleCopy [] t rfl ht (by decide +kernel)
  obtain ⟨n, hn, hle⟩ := hdate.run dawn rfl halfPast hrun
  cases hn
  exact absurd hle (by decide)

end WorkerPool

end Deskwork.Schedule
