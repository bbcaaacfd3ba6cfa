/-
# Renewed Plans

A worker pool moves in order when tasks are taken on with new identifiers and are dropped, the scheduler
is started and stopped, the tasks are looked at by the clock, and workers come and go
(`WorkerPool.Admits`). Then every identifier stands for one card (`WorkerPool.Sound`), and a move changes
the plan of a task in two ways only: a start plans the task anew, and so does the end of its run, which
also notes when the run began (`WorkerPool.Revision`). After a run has begun, its worker is running or
the task was planned anew from this run on (`WorkerPool.Begun`).
-/
import Deskwork.Proofs.Schedule.Listing
import Deskwork.Proofs.Schedule.Slots

namespace Deskwork.Schedule

open Deskwork.Time

namespace Task

variable {t u v : Task} {now : Moment}

/-- A planned task keeps what its next run is computed from. -/
theorem basis_planned (h : t.planned now = .ok u) : u.basis = t.basis := by
  obtain ⟨next, -, rfl⟩ := planned_eq_ok_iff.mp h
  rfl

theorem nextRunAt_planned (h : t.planned now = .ok u) : u.nextRunAt now = .ok u.nextRun := by
  have hsame := nextRunAt_congr (basis_planned h) now
  obtain ⟨next, hnext, rfl⟩ := planned_eq_ok_iff.mp h
  exact hsame.trans hnext

/-- What was planned is planned at the same moment in the same way. -/
theorem planned_of_planned (h : t.planned now = .ok u) (h' : u.planned now = .ok v) :
    t.planned now = .ok v := by
  have hsame := nextRunAt_congr (basis_planned h) now
  obtain ⟨next, -, rfl⟩ := planned_eq_ok_iff.mp h
  obtain ⟨next', hnext', rfl⟩ := planned_eq_ok_iff.mp h'
  exact planned_eq_ok_iff.mpr ⟨next', hsame.symm.trans hnext', rfl⟩

end Task

namespace Scheduler

variable {s s' : Scheduler} {c d : Card} {t : Task}

/-! ## Cards -/

/-- When every card has an identifier of its own, it is found by it. -/
theorem idOf?_inj (hids : (s.charters.map Task.id).Nodup) {id : String}
    (hc : s.idOf? c = some id) (hd : s.idOf? d = some id) : c = d := by
  rw [idOf?_eq, ← List.getElem?_map] at hc hd
  exact (List.getElem?_inj (List.getElem?_eq_some_iff.mp hc).1 hids).mp (hc.trans hd.symm)

/-- A run is noted on its own card when every card has an identifier of its own. -/
theorem liveCard_eq (hids : (s.charters.map Task.id).Nodup) {id : String}
    (hc : s.idOf? c = some id) : s.liveCard id c = c := by
  unfold liveCard
  cases hfind : s.find? id with
  | none => rfl
  | some d =>
    have hfound := List.find?_some hfind
    have hd : s.idOf? d = some id := by
      unfold idOf?
      cases ht : s.task? d with
      | none =>
        rw [ht] at hfound
        cases hfound
      | some t =>
        rw [ht] at hfound
        simpa using hfound
    exact idOf?_inj hids hd hc

/-- Planning some cards at a moment leaves the task on a card as it was, or plans it. -/
theorem task?_planAll (now : Moment) (cs : List Card) (ht : s.task? c = some t) :
    ∃ t', (planAll now cs s).2.task? c = some t' ∧ (t' = t ∨ t.planned now = .ok t') := by
  induction cs generalizing s t with
  | nil => exact ⟨t, ht, .inl rfl⟩
  | cons d cs ih =>
    have hplan := s.plan_cases d now
    unfold planAll
    obtain ⟨u, u', hu, hplanned, h⟩ | ⟨hsame, -⟩ := hplan
    · rw [h]
      dsimp only
      have hnext := s.task?_modify d (fun _ => u') c
      by_cases hcd : d = c
      · -- A card that stands in the list more than once is planned by the same clock each time.
        subst hcd
        cases ht.symm.trans hu
        rw [if_pos rfl, ht] at hnext
        obtain ⟨t', ht', hlater⟩ := ih hnext
        refine ⟨t', ht', .inr ?_⟩
        rcases hlater with rfl | hlater
        · exact hplanned
        · exact Task.planned_of_planned hplanned hlater
      · rw [if_neg hcd, ht] at hnext
        exact ih hnext
    · generalize s.plan d now = p at hsame ⊢
      obtain ⟨_ | _, s'⟩ := p
      · obtain rfl : s' = s := hsame
        exact ⟨t, ht, .inl rfl⟩
      · obtain rfl : s' = s := hsame
        exact ih ht

/-- A start leaves the task on a card as it was, or plans it by the clock. -/
theorem task?_start (ht : s.task? c = some t) :
    ∃ t', s.start.2.task? c = some t' ∧ (t' = t ∨ t.planned s.now = .ok t') := by
  obtain ⟨t', ht', hcases⟩ := task?_planAll s.now s.listed ht
  unfold start
  split
  · exact ⟨t, ht, .inl rfl⟩
  · generalize planAll s.now s.listed s = p at ht' ⊢
    obtain ⟨_ | _, s'⟩ := p <;> exact ⟨t', ht', hcases⟩

/-- The end of a run is noted on its card: when it began, and when the task runs next. -/
theorem settle_cases {r : Record} (hlive : s.liveCard r.taskId c = c) (ht : s.task? c = some t) :
    (∀ d, d ≠ c → (s.settle c r).2.task? d = s.task? d) ∧ (s.settle c r).2.now = s.now ∧
      ((∃ f, (s.settle c r).1 = .error f) ∨
        ∃ t', (s.settle c r).2.task? c = some t' ∧ t'.charter = t.charter ∧
          t'.lastRun = some r.start ∧ t'.nextRunAt s.now = .ok t'.nextRun) := by
  have htask := s.task?_filed c r
  rw [settle_eq (hlive.symm ▸ ht), hlive]
  refine ⟨fun d hd => (htask d).trans (if_neg hd.symm), rfl, ?_⟩
  cases hplanned : (t.ranAt r.start).planned s.now with
  | error f => exact .inl ⟨f, rfl⟩
  | ok t' =>
    refine .inr ⟨t', ?_, (Task.charter_planned hplanned).trans rfl,
      congrArg Task.lastRun (Task.basis_planned hplanned), Task.nextRunAt_planned hplanned⟩
    refine ((htask c).trans (if_pos rfl)).trans ?_
    rw [ht]
    exact congrArg some (Task.replanned_of_ok hplanned)

end Scheduler

/-- The next run could not be planned at the end of the run. -/
def Stage.isFailed : Stage → Bool
  | .noted (.error _) => true
  | _ => false

namespace WorkerPool

variable {w w' : WorkerPool} {m : Move} {c : Card} {t : Task}

/-! ## Moves in order -/

/-- The present moment. -/
def now (w : WorkerPool) : Moment := w.scheduler.now

/-- A move is in order: a task that is taken on has a new identifier, the tasks are looked at by the
clock, and at the end of a run the next one can be planned; the list of tasks is not changed in
another way. -/
def Admits (w : WorkerPool) : Move → Prop
  | .add t => t.id ∉ w.scheduler.charters.map Task.id
  | .tick now => now = w.now
  | .note index result => ∀ k ∈ (w.noteAt index result).workers, k.stage.isFailed = false
  | .update _ | .load _ | .clear => False
  | .remove _ | .start | .stop | .pass .. | .begin _ | .leave _ => True

instance (w : WorkerPool) : (m : Move) → Decidable (w.Admits m)
  | .add t => inferInstanceAs (Decidable (t.id ∉ w.scheduler.charters.map Task.id))
  | .tick now => inferInstanceAs (Decidable (now = w.now))
  | .note index result =>
    inferInstanceAs (Decidable (∀ k ∈ (w.noteAt index result).workers, k.stage.isFailed = false))
  | .update _ | .load _ | .clear => .isFalse id
  | .remove _ | .start | .stop | .pass .. | .begin _ | .leave _ => .isTrue trivial

/-- Every identifier stands for one card, and workers are about the tasks on their cards. -/
structure Sound (w : WorkerPool) : Prop where
  /-- The unfinished workers are accounted for. -/
  accounted : w.Accounted
  /-- Every card has an identifier of its own. -/
  ids : (w.scheduler.charters.map Task.id).Nodup
  /-- No card is listed twice. -/
  listed : w.scheduler.listed.Nodup
  /-- There are tasks on the listed cards. -/
  placed : ∀ c ∈ w.scheduler.listed, c < w.scheduler.charters.length
  /-- A worker has the task on its card, and its record is about this task. -/
  workers : ∀ k ∈ w.workers, w.scheduler.idOf? k.card = some k.task.id ∧ k.record.taskId = k.task.id

/-- A worker pool in which no task was taken on. -/
structure Fresh (w : WorkerPool) : Prop extends w.Idle where
  /-- There are no tasks on cards. -/
  cards : w.scheduler.cards = []
  /-- No card is listed. -/
  listed : w.scheduler.listed = []

theorem Fresh.sound (h : w.Fresh) : w.Sound := by
  refine ⟨h.toIdle.accounted, ?_, ?_, ?_, ?_⟩
  · unfold Scheduler.charters
    rw [h.cards]
    exact List.nodup_nil
  · rw [h.listed]
    exact List.nodup_nil
  · rw [h.listed]
    exact fun c hc => nomatch hc
  · rw [h.workers]
    exact fun k hk => nomatch hk

/-! ## Soundness -/

namespace Sound

/-- The cards that are started have tasks with different identifiers. -/
theorem nodup_startedIds (h : w.Sound) (now : Moment) : (w.startedIds now).Nodup := by
  refine WorkerPool.nodup_startedIds (List.Nodup.filterMap ?_ h.listed) now
  exact fun c d id hc hd => Scheduler.idOf?_inj h.ids hc hd

/-- No two workers have the same card. -/
theorem unique (h : w.Sound) {i j : Nat} {k k' : Worker} (hi : w.workers[i]? = some k)
    (hj : w.workers[j]? = some k') (hcard : k.card = k'.card) : i = j := by
  have hnodup : (w.workers.map fun k => k.task.id).Nodup := (List.nodup_append.mp h.accounted.apart).2.1
  -- Two workers on one card would be counted twice under one identifier.
  have hid : k.task.id = k'.task.id := by
    have hk := (h.workers k (List.mem_of_getElem? hi)).1
    have hk' := (h.workers k' (List.mem_of_getElem? hj)).1
    rw [hcard, hk'] at hk
    exact (Option.some.inj hk).symm
  have hlt : i < (w.workers.map fun k => k.task.id).length := by
    rw [List.length_map]
    exact (List.getElem?_eq_some_iff.mp hi).1
  refine (List.getElem?_inj hlt hnodup).mp ?_
  rw [List.getElem?_map, List.getElem?_map, hi, hj]
  exact congrArg some hid

/-- A worker that has begun does not wait. -/
theorem not_waiting (h : w.Sound) {k : Worker} (hk : k ∈ w.workers) :
    k.card ∉ w.scheduler.waiting := by
  intro hwaits
  have hid := (h.workers k hk).1
  have hleft : k.task.id ∈ w.scheduler.waiting.filterMap w.scheduler.idOf? :=
    List.mem_filterMap.mpr ⟨k.card, hwaits, hid⟩
  have hright : k.task.id ∈ w.workers.map fun k => k.task.id := List.mem_map_of_mem hk
  exact (List.nodup_append.mp h.accounted.apart).2.2 _ hleft _ hright rfl

/-- There is a task on the card of a worker that waits. -/
theorem task_of_waiting (h : w.Sound) (hc : c ∈ w.scheduler.waiting) :
    ∃ t, w.scheduler.task? c = some t := by
  have hlt := h.accounted.placed c hc
  unfold Scheduler.charters at hlt
  rw [List.length_map] at hlt
  exact ⟨_, List.getElem?_eq_getElem hlt⟩

/-- What keeps the tasks on the cards, and the list, stays sound. -/
theorem of_charters (h : w.Sound) (haccounted : w'.Accounted)
    (hcharters : w'.scheduler.charters = w.scheduler.charters)
    (hlisted : w'.scheduler.listed.Sublist w.scheduler.listed)
    (hworkers : ∀ k ∈ w'.workers, k ∈ w.workers ∨
      w.scheduler.idOf? k.card = some k.task.id ∧ k.record.taskId = k.task.id) : w'.Sound := by
  refine ⟨haccounted, hcharters ▸ h.ids, h.listed.sublist hlisted, fun c hc => ?_, fun k hk => ?_⟩
  · rw [hcharters]
    exact h.placed c (hlisted.subset hc)
  · rw [Scheduler.idOf?_eq, hcharters, ← Scheduler.idOf?_eq]
    rcases hworkers k hk with hold | hnew
    · exact h.workers k hold
    · exact hnew

/-- What keeps the tasks on the cards and lists the same cards stays sound. -/
theorem of_same (h : w.Sound) (haccounted : w'.Accounted)
    (hcharters : w'.scheduler.charters = w.scheduler.charters)
    (hlisted : w'.scheduler.listed = w.scheduler.listed)
    (hworkers : ∀ k ∈ w'.workers, k ∈ w.workers ∨
      w.scheduler.idOf? k.card = some k.task.id ∧ k.record.taskId = k.task.id) : w'.Sound :=
  h.of_charters haccounted hcharters (hlisted ▸ List.Sublist.refl _) hworkers

/-- A task with a new identifier that is taken on keeps a worker pool sound. -/
theorem add (h : w.Sound) (hadmits : w.Admits (.add t)) (haccounted : (w.step (.add t)).Accounted) :
    (w.step (.add t)).Sound := by
  have hedits := w.scheduler.edits_add t
  change (⟨(w.scheduler.add t).2, w.workers⟩ : WorkerPool).Accounted at haccounted
  change (⟨(w.scheduler.add t).2, w.workers⟩ : WorkerPool).Sound
  have hworkers : ∀ k ∈ w.workers, (w.scheduler.add t).2.idOf? k.card = some k.task.id ∧
      k.record.taskId = k.task.id := by
    intro k hk
    obtain ⟨hid, hrecord⟩ := h.workers k hk
    rw [Scheduler.idOf?_eq] at hid
    obtain ⟨u, hu, -⟩ := Option.map_eq_some_iff.mp hid
    rw [hedits.idOf? (List.getElem?_eq_some_iff.mp hu).1, Scheduler.idOf?_eq]
    exact ⟨hid, hrecord⟩
  unfold Scheduler.add at haccounted hworkers ⊢
  cases hplanned : t.planned w.scheduler.now with
  | error f => exact h
  | ok u =>
    rw [hplanned] at haccounted hworkers
    have hid : u.charter.id = t.charter.id := congrArg Task.id (Task.charter_planned hplanned)
    change u.id = t.id at hid
    refine ⟨haccounted, ?_, ?_, ?_, hworkers⟩
    · change ((w.scheduler.cards ++ [u]).map Task.charter |>.map Task.id).Nodup
      rw [List.map_append, List.map_append, List.nodup_append]
      refine ⟨h.ids, List.nodup_singleton _, fun a ha b hb hab => hadmits ?_⟩
      obtain rfl : b = u.id := by simpa [Task.charter] using hb
      rw [← hid, ← hab]
      exact ha
    · -- The new card is the next one after all cards, and those that are listed are among them.
      change (w.scheduler.listed ++ [w.scheduler.cards.length]).Nodup
      rw [List.nodup_append]
      refine ⟨h.listed, List.nodup_singleton _, fun a ha b hb hab => ?_⟩
      have hlt := h.placed a ha
      unfold Scheduler.charters at hlt
      rw [List.length_map] at hlt
      rw [List.mem_singleton] at hb
      exact absurd (hab.trans hb) (Nat.ne_of_lt hlt)
    · change ∀ c ∈ w.scheduler.listed ++ [w.scheduler.cards.length],
        c < ((w.scheduler.cards ++ [u]).map Task.charter).length
      intro c hc
      rw [List.length_map, List.length_append, List.length_singleton]
      rcases List.mem_append.mp hc with hc | hc
      · have hlt := h.placed c hc
        unfold Scheduler.charters at hlt
        rw [List.length_map] at hlt
        exact Nat.lt_succ_of_lt hlt
      · rw [List.mem_singleton] at hc
        exact hc ▸ Nat.lt_succ_self _

/-- A worker that begins keeps a worker pool sound. -/
theorem begin (h : w.Sound) {index : Nat} (haccounted : (w.step (.begin index)).Accounted) :
    (w.step (.begin index)).Sound := by
  change (w.beginAt index).Accounted at haccounted
  change (w.beginAt index).Sound
  unfold beginAt at haccounted ⊢
  cases hc : w.scheduler.waiting[index]? with
  | none => exact h
  | some c =>
    rw [hc] at haccounted
    obtain ⟨t, ht⟩ := h.task_of_waiting (List.mem_of_getElem? hc)
    have hunwait : (w.onScheduler fun s => s.unwait index).scheduler.task? c = some t := ht
    dsimp only at haccounted ⊢
    rw [hunwait] at haccounted ⊢
    have hopened := ((w.scheduler.unwait index).undisturbed_openRun t).revises
    refine h.of_same haccounted hopened.charters hopened.listed fun k hk => ?_
    rcases List.mem_cons.mp hk with rfl | hk
    · refine .inr ⟨?_, rfl⟩
      unfold Scheduler.idOf?
      rw [ht]
      rfl
    · exact .inl hk

/-- A run that is noted keeps a worker pool sound. -/
theorem note (h : w.Sound) {index : Nat} {result : Except Fault Verdict}
    (haccounted : (w.step (.note index result)).Accounted) :
    (w.step (.note index result)).Sound := by
  change (w.noteAt index result).Accounted at haccounted
  change (w.noteAt index result).Sound
  unfold noteAt at haccounted ⊢
  split
  next c t r hindex =>
    rw [hindex] at haccounted
    have hnoted := (w.scheduler.undisturbed_judge t result).revises.trans
      (Scheduler.revises_settle _ c (r.closed (w.scheduler.judge t result).1.1
        (w.scheduler.judge t result).1.2 (w.scheduler.judge t result).2.now))
    have hold := h.workers _ (List.mem_of_getElem? hindex)
    refine h.of_same haccounted hnoted.charters hnoted.listed fun k hk => ?_
    rcases List.mem_or_eq_of_mem_set hk with hk | rfl
    · exact .inl hk
    · exact .inr hold
  next => exact h

/-- A worker that leaves keeps a worker pool sound. -/
theorem leave (h : w.Sound) {index : Nat} (haccounted : (w.step (.leave index)).Accounted) :
    (w.step (.leave index)).Sound := by
  change (w.leaveAt index).Accounted at haccounted
  change (w.leaveAt index).Sound
  have hrest : ∀ k ∈ w.workers.eraseIdx index, k ∈ w.workers :=
    fun k hk => List.mem_of_mem_eraseIdx hk
  unfold leaveAt at haccounted ⊢
  split
  next c t r live hindex =>
    rw [hindex] at haccounted
    have hannounced := (w.scheduler.undisturbed_announce live t r).revises
    dsimp only at haccounted ⊢
    generalize w.scheduler.announce live t r = announced at hannounced haccounted ⊢
    obtain ⟨_ | _, s⟩ := announced <;>
      exact h.of_same haccounted hannounced.charters hannounced.listed fun k hk => .inl (hrest k hk)
  next c t r f hindex =>
    rw [hindex] at haccounted
    exact h.of_same haccounted rfl rfl fun k hk => .inl (hrest k hk)
  next => exact h

/-- Every move in order keeps a worker pool sound. -/
theorem step (h : w.Sound) (hadmits : w.Admits m) : (w.step m).Sound := by
  have haccounted : (w.step m).Accounted := h.accounted.step fun now _ => h.nodup_startedIds now
  cases m with
  | add t => exact h.add hadmits haccounted
  | update t => exact hadmits.elim
  | remove id =>
    obtain ⟨hcards, hlisted⟩ := w.scheduler.remove_spec id
    exact h.of_charters haccounted (congrArg (List.map _) hcards) hlisted fun k hk => .inl hk
  | load path => exact hadmits.elim
  | clear => exact hadmits.elim
  | start =>
    have hstart := w.scheduler.revises_start
    exact h.of_same haccounted hstart.charters hstart.listed fun k hk => .inl hk
  | stop =>
    have hstop := w.scheduler.undisturbed_stop.revises
    exact h.of_same haccounted hstop.charters hstop.listed fun k hk => .inl hk
  | tick now =>
    have hstarts := w.scheduler.starts_tick now
    exact h.of_same haccounted (congrArg (List.map _) hstarts.cards) hstarts.listed
      fun k hk => .inl hk
  | pass desk runner messenger =>
    exact h.of_same haccounted rfl rfl fun k hk => .inl hk
  | begin index => exact h.begin haccounted
  | note index result => exact h.note haccounted
  | leave index => exact h.leave haccounted

end Sound

/-! ## What a move does to a plan -/

/-- What a move in order does to the task on a card. -/
inductive Revision (w : WorkerPool) (m : Move) (c : Card) (t t' : Task) : Prop where
  /-- Its plan stays. -/
  | kept (same : t'.agenda = t.agenda)
  /-- It is planned anew by the clock. -/
  | replanned (basis : t'.basis = t.basis) (plan : t'.nextRunAt w.now = .ok t'.nextRun)
  /-- The run of its worker is noted, and it is planned anew by the clock. -/
  | noted (index : Nat) (result : Except Fault Verdict) (k : Worker) (move : m = .note index result)
    (worker : w.workers[index]? = some k) (card : k.card = c) (running : k.stage = .running)
    (last : t'.lastRun = some k.record.start)
    (plan : t'.nextRunAt (w.step m).now = .ok t'.nextRun)

/-- The plan of a task stays when nothing but notifications changes. -/
theorem revision_of_agendas {s : Scheduler} (h : s.agendas = w.scheduler.agendas)
    (ht : w.scheduler.task? c = some t) : ∃ t', s.task? c = some t' ∧ w.Revision m c t t' := by
  obtain ⟨t', ht', hagenda⟩ := Scheduler.exists_of_agendas h ht
  exact ⟨t', ht', .kept hagenda⟩

/-- Noting a run plans the task on the card of the worker anew, and no other one. -/
theorem task?_note (h : w.Sound) {index : Nat} {result : Except Fault Verdict}
    (hadmits : w.Admits (.note index result)) {k : Worker} (hk : w.workers[index]? = some k)
    (hrunning : k.stage = .running) :
    (∀ d, d ≠ k.card → (w.step (.note index result)).scheduler.task? d = w.scheduler.task? d) ∧
      ∃ t, (w.step (.note index result)).scheduler.task? k.card = some t ∧
        t.lastRun = some k.record.start ∧
        t.nextRunAt (w.step (.note index result)).now = .ok t.nextRun := by
  obtain ⟨hid, hrecord⟩ := h.workers k (List.mem_of_getElem? hk)
  obtain ⟨c, u, r, stage⟩ := k
  obtain rfl : stage = .running := hrunning
  let s := (w.scheduler.judge u result).2
  let closed := r.closed (w.scheduler.judge u result).1.1 (w.scheduler.judge u result).1.2 s.now
  have hnoted : w.step (.note index result) =
      ⟨(s.settle c closed).2, w.workers.set index ⟨c, u, closed, .noted (s.settle c closed).1⟩⟩ := by
    change w.noteAt index result = _
    unfold noteAt
    rw [hk]
  have hcards : s.cards = w.scheduler.cards := by
    change (w.scheduler.judge u result).2.cards = _
    cases result <;> rfl
  have htask (d : Card) : s.task? d = w.scheduler.task? d := by
    unfold Scheduler.task?
    rw [hcards]
  -- The run is noted on the card of the worker itself.
  have hlive : s.liveCard closed.taskId c = c := by
    have hcharters : s.charters = w.scheduler.charters := congrArg (List.map _) hcards
    refine Scheduler.liveCard_eq (hcharters ▸ h.ids) ?_
    rw [Scheduler.idOf?_eq, hcharters, ← Scheduler.idOf?_eq]
    exact hid.trans (congrArg some hrecord.symm)
  obtain ⟨v, hv, -⟩ := Option.map_eq_some_iff.mp hid
  obtain ⟨hothers, hnow, hsettled⟩ := Scheduler.settle_cases hlive ((htask c).trans hv)
  -- A note in order is one after which the next run could be planned.
  have hfine : ∀ f, (s.settle c closed).1 ≠ .error f := by
    intro f hfails
    have hmem : (⟨c, u, closed, .noted (.error f)⟩ : Worker) ∈
        (w.step (.note index result)).workers := by
      rw [hnoted, hfails]
      exact List.mem_set (List.getElem?_eq_some_iff.mp hk).1 _
    cases hadmits _ hmem
  obtain ⟨f, hfails⟩ | ⟨t, ht, -, hlast, hplan⟩ := hsettled
  · exact absurd hfails (hfine f)
  · rw [hnoted]
    refine ⟨fun d hd => (hothers d hd).trans (htask d), t, ht, hlast, ?_⟩
    change t.nextRunAt (s.settle c closed).2.now = _
    rw [hnow]
    exact hplan

/-- When a worker runs, it runs no longer after its run was noted, and the others stay; otherwise
nothing is noted. -/
theorem noteAt_cases (w : WorkerPool) (index : Nat) (result : Except Fault Verdict) :
    (w.noteAt index result = w ∧ ∀ k, w.workers[index]? = some k → k.stage ≠ .running) ∨
      ∃ k r outcome, w.workers[index]? = some k ∧ k.stage = .running ∧
        (w.noteAt index result).workers =
          w.workers.set index ⟨k.card, k.task, r, .noted outcome⟩ ∧
        (w.noteAt index result).scheduler.waiting = w.scheduler.waiting := by
  unfold noteAt
  split
  next c t r hk =>
    exact .inr ⟨_, _, _, hk, rfl, rfl, ((w.scheduler.undisturbed_judge t result).revises.trans
      (Scheduler.revises_settle _ c _)).waiting⟩
  next hnone =>
    refine .inl ⟨rfl, fun k hk hrunning => ?_⟩
    obtain ⟨c, t, r, stage⟩ := k
    obtain rfl : stage = .running := hrunning
    exact hnone c t r hk

/-- Every move in order keeps the plan of a task or plans the task anew. -/
theorem revision (h : w.Sound) (hadmits : w.Admits m) (ht : w.scheduler.task? c = some t) :
    ∃ t', (w.step m).scheduler.task? c = some t' ∧ w.Revision m c t t' := by
  have hsame {s : Scheduler} (hs : s.cards = w.scheduler.cards) :
      ∃ t', s.task? c = some t' ∧ w.Revision m c t t' := by
    refine ⟨t, ?_, .kept rfl⟩
    unfold Scheduler.task?
    rw [hs]
    exact ht
  cases m with
  | add u =>
    change ∃ t', (w.scheduler.add u).2.task? c = some t' ∧ _
    unfold Scheduler.add
    split
    · exact ⟨t, ht, .kept rfl⟩
    · refine ⟨t, ?_, .kept rfl⟩
      change (w.scheduler.cards ++ _)[c]? = some t
      rw [List.getElem?_append_left (List.getElem?_eq_some_iff.mp ht).1]
      exact ht
  | update u => exact hadmits.elim
  | remove id => exact hsame (w.scheduler.remove_spec id).1
  | load path => exact hadmits.elim
  | clear => exact hadmits.elim
  | start =>
    obtain ⟨t', ht', rfl | hplanned⟩ := Scheduler.task?_start ht
    · exact ⟨t', ht', .kept rfl⟩
    · exact ⟨t', ht', .replanned (Task.basis_planned hplanned) (Task.nextRunAt_planned hplanned)⟩
  | stop => exact revision_of_agendas w.scheduler.undisturbed_stop.agendas ht
  | tick now => exact hsame (w.scheduler.starts_tick now).cards
  | pass desk runner messenger => exact hsame rfl
  | begin index =>
    change ∃ t', (w.beginAt index).scheduler.task? c = some t' ∧ _
    unfold beginAt
    split
    · exact hsame rfl
    · dsimp only
      split
      · exact hsame rfl
      · exact revision_of_agendas ((w.scheduler.unwait index).undisturbed_openRun _).agendas ht
  | note index result =>
    rcases w.noteAt_cases index result with ⟨hstays, -⟩ | ⟨k, -, -, hk, hrunning, -⟩
    · refine ⟨t, ?_, .kept rfl⟩
      change (w.noteAt index result).scheduler.task? c = some t
      rw [hstays]
      exact ht
    · obtain ⟨hothers, t', ht', hlast, hplan⟩ := task?_note h hadmits hk hrunning
      by_cases hcard : k.card = c
      · subst hcard
        exact ⟨t', ht', .noted index result k rfl hk rfl hrunning hlast hplan⟩
      · exact ⟨t, (hothers c (Ne.symm hcard)).trans ht, .kept rfl⟩
  | leave index =>
    change ∃ t', (w.leaveAt index).scheduler.task? c = some t' ∧ _
    unfold leaveAt
    split
    next d u r live hindex =>
      have hannounced := (w.scheduler.undisturbed_announce live u r).agendas
      dsimp only
      generalize w.scheduler.announce live u r = announced at hannounced ⊢
      obtain ⟨_ | _, s⟩ := announced <;> exact revision_of_agendas hannounced ht
    next => exact hsame rfl
    next => exact hsame rfl

end WorkerPool

end Deskwork.Schedule
