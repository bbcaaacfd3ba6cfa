/-
# Overlapping Workers

A scheduler counts the tasks that are being run by their identifiers. As long as no look at the tasks
starts two tasks with one identifier, this count is right at every moment: it names the tasks of the
unfinished workers, each of them once (`WorkerPool.Accounted`). A look chooses the due tasks first and
counts them afterwards, so two listed tasks with one identifier may be started together; and this is the
only way in which two unfinished workers come to have tasks with one identifier (`nodup_busy_iff`).
-/
import Deskwork.Proofs.Schedule.WorkerPool
import Mathlib.Data.List.Induction
import Mathlib.Data.List.Nodup
import Mathlib.Data.List.Perm.Basic

namespace Deskwork.Schedule

open Deskwork.Time

namespace Scheduler

variable {s s' : Scheduler} {c : Card}

/-! ## Identifiers -/

theorem idOf?_eq (s : Scheduler) (c : Card) : s.idOf? c = (s.charters[c]?).map Task.id := by
  unfold idOf? task? charters
  rw [List.getElem?_map, Option.map_map]
  rfl

theorem idOf?_congr (h : s'.cards = s.cards) : s'.idOf? = s.idOf? := by
  funext c
  unfold idOf? task?
  rw [h]

/-- A card keeps the identifier of its task when tasks are put on new cards at most. -/
theorem idOf?_of_charters (h : s.charters <+: s'.charters) (hc : c < s.charters.length) :
    s'.idOf? c = s.idOf? c := by
  obtain ⟨more, hmore⟩ := h
  rw [idOf?_eq, idOf?_eq, ← hmore, List.getElem?_append_left hc]

theorem Edits.idOf? (h : s.Edits s') (hc : c < s.charters.length) : s'.idOf? c = s.idOf? c :=
  idOf?_of_charters h.charters hc

/-- Identifiers that are not counted yet are counted behind the others. -/
theorem foldl_occupy {ids news : List String} (hnews : news.Nodup) (hids : ∀ id ∈ news, id ∉ ids) :
    news.foldl occupy ids = ids ++ news := by
  induction news generalizing ids with
  | nil => simp
  | cons id news ih =>
    obtain ⟨hid, hnews⟩ := List.nodup_cons.mp hnews
    have hnot : id ∉ ids := hids id List.mem_cons_self
    have hoccupy : occupy ids id = ids ++ [id] := by simp [occupy, hnot]
    have hlater : ∀ other ∈ news, other ∉ ids ++ [id] := by
      intro other hother hmem
      rcases List.mem_append.mp hmem with hmem | hmem
      · exact hids other (List.mem_cons_of_mem _ hother) hmem
      · rw [List.mem_singleton] at hmem
        exact hid (hmem ▸ hother)
    rw [List.foldl_cons, hoccupy, ih hnews hlater, List.append_assoc, List.singleton_append]

end Scheduler

namespace WorkerPool

variable {w w' : WorkerPool}

/-! ## Unfinished workers -/

/-- The identifiers of the tasks of the unfinished workers: those that wait, and those that have
begun. -/
def busy (w : WorkerPool) : List String :=
  w.scheduler.waiting.filterMap w.scheduler.idOf? ++ w.workers.map fun k => k.task.id

/-- The identifiers of the tasks that a look at a moment starts. -/
def startedIds (w : WorkerPool) (now : Moment) : List String :=
  (w.scheduler.ready now).filterMap w.scheduler.idOf?

/-- The tasks of the unfinished workers are those that count as being run. -/
structure Accounted (w : WorkerPool) : Prop where
  /-- Workers wait with tasks on cards. -/
  placed : ∀ c ∈ w.scheduler.waiting, c < w.scheduler.charters.length
  /-- The tasks count as being run. -/
  inFlight : w.scheduler.inFlight.Perm w.busy
  /-- They have different identifiers. -/
  apart : w.busy.Nodup

/-- A worker pool in which no worker was started is accounted for. -/
theorem Idle.accounted (h : w.Idle) : w.Accounted := by
  have hbusy : w.busy = [] := by
    unfold busy
    rw [h.waiting, h.workers]
    rfl
  refine ⟨?_, ?_, ?_⟩
  · rw [h.waiting]
    exact fun c hc => nomatch hc
  · rw [h.inFlight, hbusy]
  · rw [hbusy]
    exact List.nodup_nil

/-- The tasks that are started are not being run. -/
theorem startedIds_not_mem {now : Moment} :
    ∀ id ∈ w.startedIds now, id ∉ w.scheduler.inFlight := by
  intro id hid
  obtain ⟨c, hc, hcid⟩ := List.mem_filterMap.mp hid
  obtain ⟨t, ht, -, hfree⟩ := Scheduler.isReady_eq_true ((w.scheduler.ready_sublist now).2 c hc)
  unfold Scheduler.idOf? at hcid
  rw [ht] at hcid
  exact Option.some.inj hcid ▸ hfree

/-- Listed tasks with different identifiers are started with different identifiers. -/
theorem nodup_startedIds (h : (w.scheduler.listed.filterMap w.scheduler.idOf?).Nodup)
    (now : Moment) : (w.startedIds now).Nodup :=
  h.sublist ((w.scheduler.ready_sublist now).1.filterMap _)

/-! ## Moves -/

/-- Edits leave the account as it is, when the workers have the same tasks. -/
theorem Accounted.of_edits (h : w.Accounted) (hedits : w.scheduler.Edits w'.scheduler)
    (hworkers : w'.workers.map (fun k => k.task.id) = w.workers.map fun k => k.task.id) :
    w'.Accounted := by
  have hbusy : w'.busy = w.busy := by
    unfold busy
    rw [hworkers, hedits.waiting]
    congr 1
    exact List.filterMap_congr fun c hc => hedits.idOf? (h.placed c hc)
  refine ⟨?_, ?_, ?_⟩
  · intro c hc
    rw [hedits.waiting] at hc
    exact Nat.lt_of_lt_of_le (h.placed c hc) hedits.charters.length_le
  · rw [hbusy, hedits.inFlight]
    exact h.inFlight
  · rw [hbusy]
    exact h.apart

/-- The workers that a look starts are unfinished. -/
theorem busy_tick (w : WorkerPool) (now : Moment) :
    (w.step (.tick now)).busy =
      (w.scheduler.waiting.filterMap w.scheduler.idOf? ++ w.startedIds now) ++
        w.workers.map fun k => k.task.id := by
  have hstarts := w.scheduler.starts_tick now
  unfold busy startedIds
  change (w.scheduler.tick now).2.waiting.filterMap (w.scheduler.tick now).2.idOf? ++ _ = _
  rw [hstarts.waiting, Scheduler.idOf?_congr hstarts.cards, List.filterMap_append]
  rfl

/-- A look that starts tasks with different identifiers accounts for them. -/
theorem Accounted.tick (h : w.Accounted) {now : Moment} (hstarted : (w.startedIds now).Nodup) :
    (w.step (.tick now)).Accounted := by
  have hstarts := w.scheduler.starts_tick now
  have hbusy : (w.step (.tick now)).busy.Perm (w.busy ++ w.startedIds now) := by
    rw [busy_tick]
    unfold busy
    rw [List.append_assoc, List.append_assoc]
    exact List.Perm.append_left _ List.perm_append_comm
  -- The look saw the identifiers in flight as they were before, so what it starts is apart from them.
  have hfree : ∀ id ∈ w.startedIds now, id ∉ w.scheduler.inFlight := startedIds_not_mem
  refine ⟨?_, ?_, ?_⟩
  · intro c hc
    change c ∈ (w.scheduler.tick now).2.waiting at hc
    change c < ((w.scheduler.tick now).2.cards.map _).length
    rw [hstarts.waiting] at hc
    rw [hstarts.cards]
    rcases List.mem_append.mp hc with hc | hc
    · exact h.placed c hc
    · obtain ⟨t, ht, -⟩ := Scheduler.isReady_eq_true ((w.scheduler.ready_sublist now).2 c hc)
      rw [List.length_map]
      exact (List.getElem?_eq_some_iff.mp ht).1
  · change (w.scheduler.tick now).2.inFlight.Perm _
    have hcount := Scheduler.foldl_occupy hstarted hfree
    rw [hstarts.inFlight]
    exact (List.Perm.of_eq hcount).trans ((h.inFlight.append_right _).trans hbusy.symm)
  · rw [hbusy.nodup_iff, List.nodup_append]
    refine ⟨h.apart, hstarted, fun a ha b hb hab => ?_⟩
    exact hfree b hb (h.inFlight.mem_iff.mpr (hab ▸ ha))

/-- A worker that begins stays unfinished. -/
theorem Accounted.begin (h : w.Accounted) (index : Nat) : (w.step (.begin index)).Accounted := by
  change (w.beginAt index).Accounted
  unfold beginAt
  cases hc : w.scheduler.waiting[index]? with
  | none => exact h
  | some c =>
    dsimp only
    obtain ⟨hlt, hindex⟩ := List.getElem?_eq_some_iff.mp hc
    have hwaiting : w.scheduler.waiting.Perm (c :: (w.scheduler.unwait index).waiting) := by
      rw [← hindex]
      exact (List.getElem_cons_eraseIdx_perm hlt).symm
    have hplaced := h.placed c (List.mem_of_getElem? hc)
    obtain ⟨t, ht⟩ : ∃ t, w.scheduler.task? c = some t := by
      unfold Scheduler.charters at hplaced
      rw [List.length_map] at hplaced
      exact ⟨_, List.getElem?_eq_getElem hplaced⟩
    have hunwait : (w.onScheduler fun s => s.unwait index).scheduler.task? c = some t := ht
    rw [hunwait]
    dsimp only
    have hopened := (w.scheduler.unwait index).undisturbed_openRun t
    -- The identifier of the worker moves from those that wait to those that have begun.
    have hbusy : w.busy.Perm ((w.onScheduler fun s => s.unwait index).engage c t).busy := by
      have hid : w.scheduler.idOf? c = some t.id := by
        unfold Scheduler.idOf?
        rw [ht]
        rfl
      have hsame : (w.scheduler.unwait index).waiting.filterMap
          ((w.scheduler.unwait index).openRun t).2.idOf? =
            (w.scheduler.unwait index).waiting.filterMap w.scheduler.idOf? := by
        refine List.filterMap_congr fun d hd => ?_
        have hmem : d ∈ w.scheduler.waiting := hwaiting.mem_iff.mpr (List.mem_cons_of_mem _ hd)
        exact hopened.revises.edits.idOf? (h.placed d hmem)
      unfold busy engage
      dsimp only [onScheduler]
      rw [hopened.waiting, hsame, List.map_cons]
      have hids := hwaiting.filterMap w.scheduler.idOf?
      rw [List.filterMap_cons, hid] at hids
      exact (hids.append_right _).trans List.perm_middle.symm
    refine ⟨?_, ?_, ?_⟩
    · intro d hd
      change d ∈ ((w.scheduler.unwait index).openRun t).2.waiting at hd
      rw [hopened.waiting] at hd
      have hmem : d ∈ w.scheduler.waiting := hwaiting.mem_iff.mpr (List.mem_cons_of_mem _ hd)
      exact Nat.lt_of_lt_of_le (h.placed d hmem) hopened.revises.edits.charters.length_le
    · change ((w.scheduler.unwait index).openRun t).2.inFlight.Perm _
      rw [hopened.inFlight]
      exact h.inFlight.trans hbusy
    · exact hbusy.nodup_iff.mp h.apart

/-- A worker whose run is noted stays unfinished. -/
theorem Accounted.note (h : w.Accounted) (index : Nat) (result : Except Fault Verdict) :
    (w.step (.note index result)).Accounted := by
  change (w.noteAt index result).Accounted
  unfold noteAt
  split
  next c t r hindex =>
    refine h.of_edits ?_ ?_
    · exact ((w.scheduler.undisturbed_judge t result).revises.trans
        (Scheduler.revises_settle _ c _)).edits
    · refine List.ext_getElem? fun i => ?_
      rw [List.getElem?_map, List.getElem?_map, List.getElem?_set]
      split
      next hi =>
        subst hi
        rw [hindex]
        have hlt : index < w.workers.length := (List.getElem?_eq_some_iff.mp hindex).1
        rw [if_pos hlt]
        rfl
      next => rfl
  next => exact h

/-- A worker that leaves is counted no longer. -/
theorem Accounted.leave (h : w.Accounted) (index : Nat) : (w.step (.leave index)).Accounted := by
  change (w.leaveAt index).Accounted
  -- However its run was announced, nothing but its identifier is taken out.
  have hleaves {k : Worker} (hk : w.workers[index]? = some k) {s : Scheduler}
      (hs : w.scheduler.Undisturbed s) :
      (⟨s.release k.task.id, w.workers.eraseIdx index⟩ : WorkerPool).Accounted := by
    obtain ⟨hlt, rfl⟩ := List.getElem?_eq_some_iff.mp hk
    have hedits := hs.revises.edits
    have hids : (s.release w.workers[index].task.id).waiting.filterMap
        (s.release w.workers[index].task.id).idOf? =
          w.scheduler.waiting.filterMap w.scheduler.idOf? := by
      change s.waiting.filterMap s.idOf? = _
      rw [hs.waiting]
      exact List.filterMap_congr fun c hc => hedits.idOf? (h.placed c hc)
    have hbusy : w.busy.Perm (w.workers[index].task.id ::
        (⟨s.release w.workers[index].task.id, w.workers.eraseIdx index⟩ : WorkerPool).busy) := by
      unfold busy
      dsimp only
      rw [hids]
      have hworkers := (List.getElem_cons_eraseIdx_perm hlt).symm.map fun k => k.task.id
      exact (hworkers.append_left _).trans List.perm_middle
    refine ⟨?_, ?_, ?_⟩
    · intro c hc
      change c ∈ s.waiting at hc
      rw [hs.waiting] at hc
      exact Nat.lt_of_lt_of_le (h.placed c hc) hedits.charters.length_le
    · change (s.inFlight.erase w.workers[index].task.id).Perm _
      rw [hs.inFlight]
      have hrest := (h.inFlight.trans hbusy).erase w.workers[index].task.id
      rwa [List.erase_cons_head] at hrest
    · exact (List.nodup_cons.mp (hbusy.nodup_iff.mp h.apart)).2
  unfold leaveAt
  split
  next c t r live hindex =>
    have hannounced := w.scheduler.undisturbed_announce live t r
    generalize w.scheduler.announce live t r = announced at hannounced ⊢
    obtain ⟨_ | _, s⟩ := announced
    · exact hleaves hindex (hannounced.trans (s.undisturbed_surroundings _ _ _))
    · exact hleaves hindex hannounced
  next c t r f hindex => exact hleaves hindex (w.scheduler.undisturbed_surroundings _ _ _)
  next => exact h

/-- Every move leaves all workers accounted for, if a look starts tasks with different identifiers. -/
theorem Accounted.step (h : w.Accounted) {m : Move}
    (hm : ∀ now, m = .tick now → (w.startedIds now).Nodup) : (w.step m).Accounted := by
  cases m with
  | add t => exact h.of_edits (w.scheduler.edits_add t) rfl
  | update t => exact h.of_edits (w.scheduler.edits_update t) rfl
  | remove id => exact h.of_edits (w.scheduler.edits_remove id) rfl
  | load path => exact h.of_edits (w.scheduler.edits_load path) rfl
  | clear => exact h.of_edits ⟨List.prefix_refl _, rfl, rfl⟩ rfl
  | start => exact h.of_edits w.scheduler.revises_start.edits rfl
  | stop => exact h.of_edits w.scheduler.undisturbed_stop.revises.edits rfl
  | tick now => exact h.tick (hm now rfl)
  | pass desk runner messenger => exact h.of_edits ⟨List.prefix_refl _, rfl, rfl⟩ rfl
  | begin index => exact h.begin index
  | note index result => exact h.note index result
  | leave index => exact h.leave index

/-! ## All moves -/

/-- In a worker pool that was idle, the unfinished workers have tasks with different identifiers at every
moment if and only if no look at the tasks starts two tasks with one identifier. -/
theorem nodup_busy_iff (h : w.Idle) (ms : List Move) :
    (∀ front, front <+: ms → (w.after front).busy.Nodup) ↔
      ∀ front now, front ++ [.tick now] <+: ms → ((w.after front).startedIds now).Nodup := by
  constructor
  · intro hbusy front now hfront
    have hlater := hbusy _ hfront
    rw [after_concat, busy_tick] at hlater
    exact (List.nodup_append.mp (List.nodup_append.mp hlater).1).2.1
  · intro hstarted front hfront
    -- That the identifiers differ is not kept by itself: it takes the whole account of the workers.
    suffices haccounted : (w.after front).Accounted from haccounted.apart
    induction front using List.reverseRecOn with
    | nil => exact h.accounted
    | append_singleton front m ih =>
      have hbefore := ih ((List.prefix_append front [m]).trans hfront)
      rw [after_concat]
      refine hbefore.step fun now hm => ?_
      subst hm
      exact hstarted front now hfront

/-- A desk at a moment, without files. -/
def deskAt (now : Moment) : Desk := ⟨Machine.new ⟨[], []⟩ now, .standard, .standard⟩

/-- A worker pool at a moment, in which no task was taken on. -/
def vacant (now : Moment) : WorkerPool where
  scheduler := {
    desk := deskAt now, cards := [], listed := []
    inFlight := [], waiting := [], history := ⟨100, [], by decide, by decide⟩
    interval := Scheduler.standardInterval, runner := .planned [], messenger := .planned []
    watcher := .none, running := false, stopping := false, ticker := .never, attached := false }
  workers := []

/-- A task that runs again half an hour after its last run. -/
def halfHourly (id name : String) : Task where
  id := id
  name := name
  scriptPath := "s.json"
  enabled := true
  rhythm := .interval
  time := .midnight
  days := none
  interval := some 30
  created := ⟨0, none, calendarMicros_pos⟩
  notifies := false
  policy := .onError
  notifyInterval := 5
  webhookUrl := none
  lastRun := none
  nextRun := none
  lastNotified := none

/-- Two tasks with one identifier are taken on, and the tasks are looked at. -/
def twins : List Move :=
  [.add (halfHourly "t1" "a"), .add (halfHourly "t1" "b"), .tick ⟨0, none, calendarMicros_pos⟩]

/-- The two workers are started together, so there was a look that started two tasks with one
identifier. -/
theorem nodup_busy_iff_twins :
    (vacant ⟨0, none, by decide⟩).Idle ∧
      ((vacant ⟨0, none, by decide⟩).after twins).busy = ["t1", "t1"] ∧
      ∃ front now, front ++ [.tick now] <+: twins ∧
        ¬ (((vacant ⟨0, none, by decide⟩).after front).startedIds now).Nodup := by
  have hidle : (vacant ⟨0, none, by decide⟩).Idle := ⟨rfl, rfl, rfl⟩
  have hbusy : ((vacant ⟨0, none, by decide⟩).after twins).busy = ["t1", "t1"] := by
    decide +kernel
  refine ⟨hidle, hbusy, ?_⟩
  by_contra hnone
  simp only [not_exists, not_and, not_not] at hnone
  have hnodup := (nodup_busy_iff hidle twins).mpr hnone twins (List.prefix_refl _)
  rw [hbusy] at hnodup
  exact absurd hnodup (by decide)

end WorkerPool

end Deskwork.Schedule
