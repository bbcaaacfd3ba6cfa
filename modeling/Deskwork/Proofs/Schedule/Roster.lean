/-
# The Roster

A worker pool is tidy when the listed tasks have different identifiers and every worker is about the task
on its card (`WorkerPool.Tidy`). Moves that keep the identifiers apart keep a worker pool tidy
(`Tidy.step`), and what a move does to the task that is listed under an identifier is one of a few things
(`WorkerPool.Change`): nothing, unless a start plans it anew, an update puts another task in its place,
the run of a worker with its identifier is noted, or a notification about it is delivered.
-/
import Deskwork.Proofs.Schedule.Conclusion
import Deskwork.Proofs.Schedule.Renewal

namespace Deskwork.Schedule

open Deskwork.Time

namespace Scheduler

variable {s s' : Scheduler} {id : String} {t : Task}

/-- A start leaves the listed task with an identifier as it was, or plans it by the clock. -/
theorem Distinct.get?_start (h : s.Distinct) (ht : s.get? id = some t) :
    ∃ t', s.start.2.get? id = some t' ∧ (t' = t ∨ t.planned s.now = .ok t') := by
  have hstart := s.revises_start
  rw [h.get?_of_charters hstart.edits.charters hstart.listed]
  obtain ⟨c, hc, htask⟩ := Option.bind_eq_some_iff.mp ht
  rw [hc]
  exact task?_start htask

theorem get?_stop (s : Scheduler) : s.stop.get? = s.get? := by
  unfold stop join
  split
  · split <;> exact get?_congr rfl rfl
  · rfl

/-- What a worker tells about its run, when it was noted. -/
def toldBy (s : Scheduler) (k : Worker) : Scheduler :=
  match k.stage with
  | .noted (.ok live) => (s.announce live k.task k.record).2
  | _ => s

theorem undisturbed_toldBy (s : Scheduler) (k : Worker) : s.Undisturbed (s.toldBy k) := by
  unfold toldBy
  split
  · exact s.undisturbed_announce _ _ _
  · exact .refl s

theorem history_toldBy (s : Scheduler) (k : Worker) : (s.toldBy k).history = s.history := by
  unfold toldBy
  split
  · exact s.history_announce _ _ _
  · rfl

end Scheduler

/-! ## Workers and their cards -/

/-- The worker's run is not over. -/
def Stage.isRunning : Stage → Bool
  | .running => true
  | .noted _ => false

/-- A worker is about the task on its card, and so are its record and the card on which its run was
noted. -/
structure Worker.Fits (k : Worker) (s : Scheduler) : Prop where
  /-- The task on its card has the identifier of its task. -/
  card : s.idOf? k.card = some k.task.id
  /-- Its record is about this task. -/
  record : k.record.taskId = k.task.id
  /-- So is the card on which its run was noted. -/
  live : ∀ live, k.stage = .noted (.ok live) → s.idOf? live = some k.task.id

/-- A worker fits as long as tasks are put on new cards at most. -/
theorem Worker.Fits.of_charters {k : Worker} {s s' : Scheduler} (h : k.Fits s)
    (hcharters : s.charters <+: s'.charters) : k.Fits s' :=
  ⟨Scheduler.idOf?_eq_some_of_charters hcharters h.card, h.record, fun live hlive =>
    Scheduler.idOf?_eq_some_of_charters hcharters (h.live live hlive)⟩

/-- A move drops the listed task with an identifier, or all of them. -/
def Move.Drops (m : Move) (id : String) : Prop :=
  match m with
  | .remove other => other = id
  | .load _ | .clear => True
  | _ => False

/-- A move leaves the list of tasks alone. -/
def Move.Stays : Move → Prop
  | .add _ | .update _ | .remove _ | .load _ | .clear => False
  | .start | .stop | .tick _ | .pass .. | .begin _ | .note .. | .leave _ => True

namespace WorkerPool

variable {w w' : WorkerPool} {m : Move} {id : String} {index : Nat} {k : Worker} {t : Task}

/-- The task that is listed under an identifier. -/
def get? (w : WorkerPool) (id : String) : Option Task := w.scheduler.get? id

/-- A move keeps the identifiers of the listed tasks apart: a task that is taken on has another one,
and so have the tasks of a file. -/
def Separates (w : WorkerPool) : Move → Prop
  | .add t => t.id ∉ w.scheduler.listedIds
  | .load path => (w.scheduler.load path).2.Distinct
  | _ => True

/-- The listed tasks have different identifiers, and every worker fits. -/
structure Tidy (w : WorkerPool) : Prop where
  /-- The listed tasks have different identifiers. -/
  distinct : w.scheduler.Distinct
  /-- Every worker is about the task on its card. -/
  fits : ∀ k ∈ w.workers, k.Fits w.scheduler

theorem Idle.tidy (h : w.Idle) (hdistinct : w.scheduler.Distinct) : w.Tidy :=
  ⟨hdistinct, fun _ hk => nomatch (h.workers ▸ hk)⟩

/-! ## The moves of a worker -/

/-- A worker whose run is noted closes its record, and the end of the run is settled. -/
theorem noteAt_eq_settle (hk : w.workers[index]? = some k) (hrunning : k.stage = .running)
    (result : Except Fault Verdict) :
    ∃ desk, w.scheduler.desk.Chats desk ∧ w.noteAt index result =
      ⟨((w.scheduler.onDesk desk).settle k.card (k.record.concluded result w.now)).2,
        w.workers.set index ⟨k.card, k.task, k.record.concluded result w.now,
          .noted ((w.scheduler.onDesk desk).settle k.card (k.record.concluded result w.now)).1⟩⟩ := by
  obtain ⟨desk, hchats, hjudged⟩ := w.scheduler.judge_snd k.task result
  have hverdict := w.scheduler.judge_fst k.task result
  have hnow : desk.machine.wall = w.now := congrArg (·.machine.wall) hchats.hushed
  refine ⟨desk, hchats, ?_⟩
  obtain ⟨c, t, r, stage⟩ := k
  obtain rfl : stage = .running := hrunning
  unfold noteAt
  rw [hk]
  dsimp only
  generalize w.scheduler.judge t result = judged at hjudged hverdict ⊢
  obtain ⟨verdict, s⟩ := judged
  obtain rfl : verdict = verdictOf result := hverdict
  obtain rfl : s = w.scheduler.onDesk desk := hjudged
  change (⟨((w.scheduler.onDesk desk).settle c (r.concluded result desk.machine.wall)).2,
    w.workers.set index ⟨c, t, r.concluded result desk.machine.wall,
      .noted ((w.scheduler.onDesk desk).settle c (r.concluded result desk.machine.wall)).1⟩⟩ :
    WorkerPool) = _
  rw [hnow]

/-- A worker whose run is noted closes its record, which is kept, and the task on the live card is
renewed. -/
theorem noteAt_eq (h : w.Tidy) (hk : w.workers[index]? = some k) (hrunning : k.stage = .running)
    (result : Except Fault Verdict) :
    ∃ desk v, w.scheduler.desk.Chats desk ∧
      w.scheduler.task? (w.scheduler.liveCard k.task.id k.card) = some v ∧
      w.noteAt index result =
        ⟨(w.scheduler.onDesk desk).filed (w.scheduler.liveCard k.task.id k.card)
            (k.record.concluded result w.now),
          w.workers.set index ⟨k.card, k.task, k.record.concluded result w.now,
            .noted (((v.ranAt k.record.start).planned w.now).map fun _ =>
              w.scheduler.liveCard k.task.id k.card)⟩⟩ := by
  have hfits := h.fits k (List.mem_of_getElem? hk)
  obtain ⟨v, hv, -⟩ := Scheduler.exists_of_idOf? (h.distinct.idOf?_liveCard hfits.card)
  obtain ⟨desk, hchats, hnoted⟩ := noteAt_eq_settle hk hrunning result
  have hnow : (w.scheduler.onDesk desk).now = w.now := congrArg (·.machine.wall) hchats.hushed
  have hsettle := Scheduler.settle_eq (s := w.scheduler.onDesk desk) (c := k.card)
    (r := k.record.concluded result w.now) (t := v) (hfits.record ▸ hv)
  change _ = (((v.ranAt k.record.start).planned (w.scheduler.onDesk desk).now).map fun _ =>
    w.scheduler.liveCard k.record.taskId k.card, (w.scheduler.onDesk desk).filed
      (w.scheduler.liveCard k.record.taskId k.card) (k.record.concluded result w.now)) at hsettle
  rw [hnow, hfits.record] at hsettle
  rw [hsettle] at hnoted
  exact ⟨desk, v, hchats, hv, hnoted⟩

/-- Nothing is noted about a worker that does not run. -/
theorem noteAt_of_not_running (hk : ∀ k, w.workers[index]? = some k → k.stage ≠ .running)
    (result : Except Fault Verdict) : w.noteAt index result = w := by
  rcases w.noteAt_cases index result with ⟨hsame, -⟩ | ⟨k, -, -, hindex, hrunning, -⟩
  · exact hsame
  · exact absurd hrunning (hk k hindex)

/-- A worker that leaves tells about its run first. -/
theorem leaveAt_cases (w : WorkerPool) (index : Nat) :
    w.leaveAt index = w ∨
      ∃ k desk ids, w.workers[index]? = some k ∧ k.stage ≠ .running ∧
        w.leaveAt index = ⟨{ w.scheduler.toldBy k with desk := desk, inFlight := ids },
          w.workers.eraseIdx index⟩ := by
  unfold leaveAt
  split
  next c t r live hk =>
    have htold : w.scheduler.toldBy ⟨c, t, r, .noted (.ok live)⟩ =
      (w.scheduler.announce live t r).2 := rfl
    refine .inr ⟨⟨c, t, r, .noted (.ok live)⟩, ?_⟩
    rw [htold]
    generalize w.scheduler.announce live t r = announced
    obtain ⟨_ | _, s⟩ := announced <;> exact ⟨_, _, hk, (nomatch ·), rfl⟩
  next c t r f hk => exact .inr ⟨_, _, _, hk, (nomatch ·), rfl⟩
  next => exact .inl rfl

/-- A run that is noted renews the listed task with the identifier of the worker, and no other one. -/
theorem Tidy.get?_noteAt (h : w.Tidy) (hk : w.workers[index]? = some k)
    (hrunning : k.stage = .running) (result : Except Fault Verdict) (id : String) :
    (w.noteAt index result).get? id =
      if id = k.task.id then (w.get? id).map fun t => t.renewed k.record.start w.now
      else w.get? id := by
  obtain ⟨desk, v, hchats, -, hnoted⟩ := noteAt_eq h hk hrunning result
  have hfits := h.fits k (List.mem_of_getElem? hk)
  have hnow : (w.scheduler.onDesk desk).now = w.now := congrArg (·.machine.wall) hchats.hushed
  have hdistinct : (w.scheduler.onDesk desk).Distinct := ⟨h.distinct.placed, h.distinct.ids⟩
  have hfiled := hdistinct.get?_filed (c := k.card) (r := k.record.concluded result w.now)
    (hfits.card.trans (congrArg some hfits.record.symm)) id
  change ((w.scheduler.onDesk desk).filed (w.scheduler.liveCard k.record.taskId k.card)
    (k.record.concluded result w.now)).get? id = if id = k.record.taskId then
      (w.get? id).map fun t => t.renewed k.record.start (w.scheduler.onDesk desk).now
      else w.get? id at hfiled
  rw [hnow, hfits.record] at hfiled
  rw [hnoted]
  exact hfiled

/-- When a worker tells about its run, a notification is noted at most on the listed task with its
identifier. -/
theorem Tidy.get?_toldBy (h : w.Tidy) (hk : k ∈ w.workers) (id : String) :
    (w.scheduler.toldBy k).get? id = w.get? id ∨
      id = k.task.id ∧ (w.scheduler.toldBy k).get? id = (w.get? id).map fun t => t.notifiedAt w.now := by
  have hfits := h.fits k hk
  unfold Scheduler.toldBy
  split
  next live hlive => exact h.distinct.get?_announce (hfits.live live hlive) k.task k.record id
  next => exact .inl rfl

/-- A worker that begins leaves the listed tasks as they are. -/
theorem get?_beginAt (w : WorkerPool) (index : Nat) (id : String) :
    (w.beginAt index).get? id = w.get? id := by
  unfold beginAt
  split
  · rfl
  · dsimp only
    split
    · rfl
    · exact congrFun ((w.scheduler.unwait index).around_openRun _).get? id

/-- A worker that leaves leaves the listed tasks as they are, unless a notification is delivered about
the one with its identifier. -/
theorem Tidy.get?_leaveAt (h : w.Tidy) (index : Nat) (id : String) :
    (w.leaveAt index).get? id = w.get? id ∨
      ∃ k, w.workers[index]? = some k ∧ id = k.task.id ∧
        (w.leaveAt index).get? id = (w.get? id).map fun t => t.notifiedAt w.now := by
  rcases w.leaveAt_cases index with hstays | ⟨k, desk, ids, hk, -, hleft⟩
  · exact .inl (congrArg (·.get? id) hstays)
  · have hsame : (w.leaveAt index).get? id = (w.scheduler.toldBy k).get? id := by
      rw [hleft]
      exact congrFun (Scheduler.get?_congr rfl rfl) id
    rcases h.get?_toldBy (List.mem_of_getElem? hk) id with hsilent | ⟨hid, hnotified⟩
    · exact .inl (hsame.trans hsilent)
    · exact .inr ⟨k, hk, hid, hsame.trans hnotified⟩

/-! ## Tidiness -/

theorem listed_step (hm : m.Stays) : (w.step m).scheduler.listed = w.scheduler.listed := by
  cases m with
  | add | update | remove | load | clear => exact hm.elim
  | start => exact w.scheduler.revises_start.listed
  | stop => exact w.scheduler.undisturbed_stop.listed
  | tick now => exact (w.scheduler.starts_tick now).listed
  | pass desk runner messenger => rfl
  | begin index =>
    change (w.beginAt index).scheduler.listed = _
    unfold beginAt
    split
    · rfl
    · dsimp only
      split
      · rfl
      · exact ((w.scheduler.unwait index).undisturbed_openRun _).listed
  | note index result =>
    change (w.noteAt index result).scheduler.listed = _
    unfold noteAt
    split
    next c t r hk =>
      exact ((w.scheduler.undisturbed_judge t result).revises.trans
        (Scheduler.revises_settle _ c _)).listed
    next => rfl
  | leave index =>
    change (w.leaveAt index).scheduler.listed = _
    rcases w.leaveAt_cases index with hstays | ⟨k, desk, ids, -, -, hleft⟩
    · rw [hstays]
    · rw [hleft]
      exact (w.scheduler.undisturbed_toldBy k).listed

/-- Moves that keep the identifiers apart keep the listed tasks distinct. -/
theorem Tidy.distinct_step (h : w.Tidy) (hm : w.Separates m) : (w.step m).scheduler.Distinct := by
  have hcharters := w.charters_step m
  have hsame (hstays : m.Stays) : (w.step m).scheduler.Distinct := by
    have hlisted := listed_step (w := w) hstays
    exact h.distinct.of_charters hcharters (hlisted ▸ List.Sublist.refl _)
  cases m with
  | add t => exact h.distinct.add hm
  | update t => exact (h.distinct.update t).1
  | remove other => exact h.distinct.of_charters hcharters (w.scheduler.remove_spec other).2
  | load path => exact hm
  | clear => exact h.distinct.of_charters hcharters (List.nil_sublist _)
  | _ => exact hsame trivial

/-- A move that is an update or leaves the list alone keeps the identifiers that are listed. -/
theorem Tidy.isSome_get?_step (h : w.Tidy) (hm : m.Stays ∨ ∃ u, m = .update u) (id : String) :
    ((w.step m).get? id).isSome = (w.get? id).isSome := by
  have hseparates : w.Separates m := by
    rcases hm with hm | ⟨u, rfl⟩
    · cases m with
      | add | load => exact hm.elim
      | _ => trivial
    · trivial
  have hids : (w.step m).scheduler.listedIds = w.scheduler.listedIds := by
    rcases hm with hm | ⟨u, rfl⟩
    · unfold Scheduler.listedIds
      rw [listed_step hm]
      exact h.distinct.filterMap_idOf? (w.charters_step m) (List.Sublist.refl _)
    · exact (h.distinct.update u).2
  rw [Bool.eq_iff_iff]
  exact (h.distinct_step hseparates).isSome_get?_iff.trans
    (hids ▸ h.distinct.isSome_get?_iff.symm)

/-- A worker that begins on a card with a task fits. -/
theorem fits_engage {c : Card} (ht : w.scheduler.task? c = some t) :
    ∀ k ∈ (w.engage c t).workers, k ∈ w.workers ∨ k.Fits w.scheduler := by
  intro k hk
  rcases List.mem_cons.mp hk with rfl | hk
  · exact .inr ⟨Scheduler.idOf?_of_task? ht, rfl, fun live h => nomatch h⟩
  · exact .inl hk

/-- A worker whose run was noted fits. -/
theorem Tidy.fits_noteAt (h : w.Tidy) (index : Nat) (result : Except Fault Verdict) :
    ∀ k ∈ (w.noteAt index result).workers, k ∈ w.workers ∨ k.Fits w.scheduler := by
  intro k hk
  by_cases hrunning : ∃ k, w.workers[index]? = some k ∧ k.stage = .running
  · obtain ⟨k', hk', hrunning⟩ := hrunning
    obtain ⟨desk, v, -, -, hnoted⟩ := noteAt_eq h hk' hrunning result
    have hfits := h.fits k' (List.mem_of_getElem? hk')
    rw [hnoted] at hk
    rcases List.mem_or_eq_of_mem_set hk with hk | rfl
    · exact .inl hk
    · refine .inr ⟨hfits.card, hfits.record, fun live hlive => ?_⟩
      -- The run was noted on the live card, if on any.
      obtain rfl : w.scheduler.liveCard k'.task.id k'.card = live := by
        cases hplanned : (v.ranAt k'.record.start).planned w.now with
        | error f =>
          rw [hplanned] at hlive
          cases hlive
        | ok v' =>
          rw [hplanned] at hlive
          cases hlive
          rfl
      exact h.distinct.idOf?_liveCard hfits.card
  · have hnone : ∀ k, w.workers[index]? = some k → k.stage ≠ .running :=
      fun k hk hstage => hrunning ⟨k, hk, hstage⟩
    rw [noteAt_of_not_running hnone] at hk
    exact .inl hk

/-- Moves that keep the identifiers apart keep a worker pool tidy. -/
theorem Tidy.step (h : w.Tidy) (hm : w.Separates m) : (w.step m).Tidy := by
  have hcharters := w.charters_step m
  refine ⟨h.distinct_step hm, fun k hk => ?_⟩
  suffices hfits : k ∈ w.workers ∨ k.Fits w.scheduler by
    rcases hfits with hold | hnew
    · exact (h.fits k hold).of_charters hcharters
    · exact hnew.of_charters hcharters
  cases m with
  | begin index =>
    change k ∈ (w.beginAt index).workers at hk
    unfold beginAt at hk
    split at hk
    · exact .inl hk
    next c hc =>
      dsimp only at hk
      split at hk
      · exact .inl hk
      next t ht =>
        have ht' : w.scheduler.task? c = some t := ht
        exact fits_engage ht' k hk
  | note index result => exact h.fits_noteAt index result k hk
  | leave index =>
    change k ∈ (w.leaveAt index).workers at hk
    rcases w.leaveAt_cases index with hstays | ⟨k', desk, ids, -, -, hleft⟩
    · exact .inl (hstays ▸ hk)
    · rw [hleft] at hk
      exact .inl (List.mem_of_mem_eraseIdx hk)
  | _ => exact .inl hk

/-- Each move has a property in the worker pool that it is made in. -/
def Along (P : WorkerPool → Move → Prop) : WorkerPool → List Move → Prop
  | _, [] => True
  | w, m :: ms => P w m ∧ (w.step m).Along P ms

section

variable {P : WorkerPool → Move → Prop}

instance decidableAlong [∀ w m, Decidable (P w m)] :
    (w : WorkerPool) → (ms : List Move) → Decidable (w.Along P ms)
  | _, [] => .isTrue trivial
  | w, m :: ms => @instDecidableAnd _ _ inferInstance (decidableAlong (w.step m) ms)

theorem along_append {ms ns : List Move} :
    w.Along P (ms ++ ns) ↔ w.Along P ms ∧ (w.after ms).Along P ns := by
  induction ms generalizing w with
  | nil => simp [Along]
  | cons m ms ih => rw [List.cons_append, after_cons, Along, Along, ih, and_assoc]

end

/-- All moves keep the identifiers of the listed tasks apart. -/
def Apart (w : WorkerPool) (ms : List Move) : Prop := w.Along Separates ms

instance : (w : WorkerPool) → (m : Move) → Decidable (w.Separates m)
  | w, .add t => inferInstanceAs (Decidable (t.id ∉ w.scheduler.listedIds))
  | w, .load path => inferInstanceAs (Decidable (w.scheduler.load path).2.Distinct)
  | _, .update _ | _, .remove _ | _, .clear | _, .start | _, .stop | _, .tick _ | _, .pass ..
  | _, .begin _ | _, .note .. | _, .leave _ => .isTrue trivial

instance (w : WorkerPool) (ms : List Move) : Decidable (w.Apart ms) :=
  inferInstanceAs (Decidable (w.Along Separates ms))

theorem Tidy.after (h : w.Tidy) {ms : List Move} (hms : w.Apart ms) : (w.after ms).Tidy := by
  induction ms generalizing w with
  | nil => exact h
  | cons m ms ih => exact ih (h.step hms.1) hms.2

/-! ## Changes -/

/-- What a move does to the task that is listed under an identifier, unless it drops it. -/
inductive Change (w : WorkerPool) (m : Move) (id : String) (t t' : Task) : Prop where
  /-- Nothing. -/
  | kept (same : t' = t)
  /-- A start plans it anew by the clock. -/
  | started (move : m = .start) (planned : t.planned w.now = .ok t')
  /-- An update puts a task in its place that takes over from it and is planned by the clock. -/
  | updated (u : Task) (move : m = .update u) (sameId : u.id = id)
    (planned : (Scheduler.takeOver u t).planned w.now = .ok t')
  /-- The run of a worker with its identifier is noted: it is renewed. -/
  | noted (index : Nat) (result : Except Fault Verdict) (k : Worker) (move : m = .note index result)
    (worker : w.workers[index]? = some k) (running : k.stage = .running) (sameId : k.task.id = id)
    (renewed : t' = t.renewed k.record.start w.now)
  /-- A worker with its identifier leaves, and a notification is delivered. -/
  | told (index : Nat) (k : Worker) (move : m = .leave index) (worker : w.workers[index]? = some k)
    (sameId : k.task.id = id) (notified : t' = t.notifiedAt w.now)

/-- Every move that keeps the identifiers apart changes a listed task in one of these ways, or drops
it. -/
theorem Tidy.change (h : w.Tidy) (hm : w.Separates m) (ht : w.get? id = some t) :
    (∃ t', (w.step m).get? id = some t' ∧ w.Change m id t t') ∨ m.Drops id := by
  have hkept (hsame : (w.step m).get? id = w.get? id) :
      (∃ t', (w.step m).get? id = some t' ∧ w.Change m id t t') ∨ m.Drops id :=
    .inl ⟨t, hsame.trans ht, .kept rfl⟩
  cases m with
  | add u =>
    by_cases hid : id = u.id
    · -- A listed task has this identifier already.
      have hlisted : id ∈ w.scheduler.listedIds := h.distinct.isSome_get?_iff.mp (by
        change (w.get? id).isSome = true
        rw [ht]
        rfl)
      exact absurd (hid ▸ hlisted) hm
    · exact hkept (h.distinct.get?_add hm hid)
  | update u =>
    by_cases hid : id = u.id
    · subst hid
      rcases h.distinct.get?_update ht with ⟨-, hplanned, hafter⟩ | ⟨-, hafter⟩
      · exact .inl ⟨_, hafter, .updated u rfl rfl hplanned⟩
      · exact .inl ⟨t, hafter, .kept rfl⟩
    · exact hkept (h.distinct.get?_update_of_ne hid)
  | remove other =>
    by_cases hid : other = id
    · exact .inr hid
    · exact hkept (h.distinct.get?_remove (Ne.symm hid))
  | load path => exact .inr trivial
  | clear => exact .inr trivial
  | start =>
    obtain ⟨t', ht', rfl | hplanned⟩ := h.distinct.get?_start ht
    · exact .inl ⟨t', ht', .kept rfl⟩
    · exact .inl ⟨t', ht', .started rfl hplanned⟩
  | stop => exact hkept (congrFun w.scheduler.get?_stop id)
  | tick now =>
    have hstarts := w.scheduler.starts_tick now
    exact hkept (congrFun (Scheduler.get?_congr hstarts.cards hstarts.listed) id)
  | pass desk runner messenger => exact hkept rfl
  | begin index =>
    exact hkept (w.get?_beginAt index id)
  | note index result =>
    by_cases hrunning : ∃ k, w.workers[index]? = some k ∧ k.stage = .running
    · obtain ⟨k, hk, hrunning⟩ := hrunning
      have hnoted := h.get?_noteAt hk hrunning result id
      by_cases hid : id = k.task.id
      · rw [if_pos hid, ht] at hnoted
        exact .inl ⟨_, hnoted, .noted index result k rfl hk hrunning hid.symm rfl⟩
      · rw [if_neg hid] at hnoted
        exact hkept hnoted
    · have hnone : ∀ k, w.workers[index]? = some k → k.stage ≠ .running :=
        fun k hk hstage => hrunning ⟨k, hk, hstage⟩
      exact hkept (congrArg (·.get? id) (noteAt_of_not_running hnone result))
  | leave index =>
    rcases h.get?_leaveAt index id with hsilent | ⟨k, hk, hid, hnotified⟩
    · exact hkept hsilent
    · rw [ht] at hnotified
      exact .inl ⟨_, hnotified, .told index k rfl hk hid.symm rfl⟩

end WorkerPool

end Deskwork.Schedule
