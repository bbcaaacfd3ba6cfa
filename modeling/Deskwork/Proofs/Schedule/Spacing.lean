/-
# Spaced Starts

When moves are in order, the same task is started again only after its worker has left, and not
before its next run has come. A run that has begun stays begun: its worker is running, or the task
was planned anew from this run on, and stays planned so until it is started again (`Begun.after`).
So when the task is started again, its plan was made from the run in between and from a reading of
the clock after the first start (`after_spaced`).
-/
import Deskwork.Proofs.Schedule.Renewal
import Mathlib.Data.List.Chain

namespace Deskwork.Schedule

open Deskwork.Time

namespace WorkerPool

variable {w : WorkerPool} {m : Move} {c : Card} {start : Moment} {P : Moment → Prop}

/-! ## Begun runs -/

/-- A worker runs the task on a card, and its run began at a moment. -/
def Running (c : Card) (start : Moment) (w : WorkerPool) : Prop :=
  ∃ k ∈ w.workers, k.card = c ∧ k.stage = .running ∧ k.record.start = start

/-- The run of the task on a card that began at a moment is over, and the task was planned anew by a
reading of the clock with a property. -/
structure Renewed (P : Moment → Prop) (c : Card) (start : Moment) (w : WorkerPool) : Prop where
  /-- The task was planned anew. -/
  planned : ∃ t now, w.scheduler.task? c = some t ∧ t.lastRun = some start ∧ P now ∧
    t.nextRunAt now = .ok t.nextRun
  /-- No worker runs the task. -/
  ended : ∀ k ∈ w.workers, k.card = c → k.stage ≠ .running
  /-- No worker waits with the task. -/
  unstarted : c ∉ w.scheduler.waiting

/-- A run of the task on a card has begun at a moment. -/
def Begun (P : Moment → Prop) (c : Card) (start : Moment) (w : WorkerPool) : Prop :=
  w.Running c start ∨ w.Renewed P c start

/-- The workers that have begun stay when another one begins. -/
theorem workers_subset_beginAt (w : WorkerPool) (index : Nat) :
    w.workers ⊆ (w.beginAt index).workers := by
  unfold beginAt
  split
  · exact fun k hk => hk
  · dsimp only
    split
    · exact fun k hk => hk
    · exact fun k hk => List.mem_cons_of_mem _ hk

/-- A worker that begins has waited with its card. -/
theorem mem_workers_beginAt {index : Nat} {k : Worker} (hk : k ∈ (w.beginAt index).workers) :
    k ∈ w.workers ∨ k.card ∈ w.scheduler.waiting := by
  unfold beginAt at hk
  split at hk
  · exact .inl hk
  next c hc =>
    dsimp only at hk
    split at hk
    · exact .inl hk
    · rcases List.mem_cons.mp hk with rfl | hk
      · exact .inr (List.mem_of_getElem? hc)
      · exact .inl hk

/-- The cards that wait when a worker begins have waited before. -/
theorem waiting_beginAt (w : WorkerPool) (index : Nat) :
    (w.beginAt index).scheduler.waiting = w.scheduler.waiting ∨
      (w.beginAt index).scheduler.waiting = w.scheduler.waiting.eraseIdx index := by
  unfold beginAt
  split
  · exact .inl rfl
  · dsimp only
    split
    · exact .inr rfl
    · exact .inr ((w.scheduler.unwait index).undisturbed_openRun _).waiting

/-- Leaving changes nothing for the workers that wait. -/
theorem waiting_leaveAt (w : WorkerPool) (index : Nat) :
    (w.leaveAt index).scheduler.waiting = w.scheduler.waiting := by
  unfold leaveAt
  split
  next c t r live hk =>
    have hannounced := (w.scheduler.undisturbed_announce live t r).waiting
    dsimp only
    generalize w.scheduler.announce live t r = announced at hannounced ⊢
    obtain ⟨_ | _, s⟩ := announced <;> exact hannounced
  next => rfl
  next => rfl

/-- A worker that leaves does not run, and the others stay. -/
theorem workers_leaveAt (w : WorkerPool) (index : Nat) :
    (w.leaveAt index).workers ⊆ w.workers ∧
      ∀ k ∈ w.workers, k.stage = .running → k ∈ (w.leaveAt index).workers := by
  have herase {k' : Worker} (hk' : w.workers[index]? = some k') (hnoted : k'.stage ≠ .running) :
      ∀ k ∈ w.workers, k.stage = .running → k ∈ w.workers.eraseIdx index := by
    intro k hk hrunning
    rw [List.mem_eraseIdx_iff_getElem?]
    obtain ⟨i, hi⟩ := List.mem_iff_getElem?.mp hk
    refine ⟨i, ?_, hi⟩
    rintro rfl
    cases hi.symm.trans hk'
    exact hnoted hrunning
  unfold leaveAt
  split
  next hk => exact ⟨List.eraseIdx_subset, herase hk fun h => nomatch h⟩
  next hk => exact ⟨List.eraseIdx_subset, herase hk fun h => nomatch h⟩
  next => exact ⟨fun k hk => hk, fun k hk _ => hk⟩

/-- A worker that begins runs the task on its card from the present moment on. -/
theorem running_begin (h : w.Sound) {index : Nat} (hc : w.scheduler.waiting[index]? = some c) :
    (w.step (.begin index)).Running c w.now := by
  obtain ⟨t, ht⟩ := h.task_of_waiting (List.mem_of_getElem? hc)
  have hunwait : (w.onScheduler fun s => s.unwait index).scheduler.task? c = some t := ht
  have hbegun : w.beginAt index = (w.onScheduler fun s => s.unwait index).engage c t := by
    unfold beginAt
    rw [hc]
    dsimp only
    rw [hunwait]
  change (w.beginAt index).Running c w.now
  rw [hbegun]
  exact ⟨_, List.mem_cons_self, rfl, rfl, rfl⟩

/-- The run of a worker goes on until it is noted. -/
theorem Running.step (h : w.Running c start) :
    (w.step m).Running c start ∨ ∃ index result k, m = .note index result ∧
      w.workers[index]? = some k ∧ k.card = c ∧ k.stage = .running ∧ k.record.start = start := by
  obtain ⟨k, hk, hcard, hrunning, hstart⟩ := h
  cases m with
  | begin index =>
    exact .inl ⟨k, w.workers_subset_beginAt index hk, hcard, hrunning, hstart⟩
  | leave index =>
    exact .inl ⟨k, (w.workers_leaveAt index).2 k hk hrunning, hcard, hrunning, hstart⟩
  | note index result =>
    obtain ⟨i, hi⟩ := List.mem_iff_getElem?.mp hk
    by_cases hindex : i = index
    · subst hindex
      exact .inr ⟨i, result, k, rfl, hi, hcard, hrunning, hstart⟩
    · refine .inl ⟨k, ?_, hcard, hrunning, hstart⟩
      change k ∈ (w.noteAt index result).workers
      rcases w.noteAt_cases index result with ⟨hstays, -⟩ | ⟨k', r, outcome, -, -, hworkers, -⟩
      · rwa [hstays]
      · rw [hworkers]
        refine List.mem_iff_getElem?.mpr ⟨i, ?_⟩
        rw [List.getElem?_set_ne (Ne.symm hindex), hi]
  | _ => exact .inl ⟨k, hk, hcard, hrunning, hstart⟩

/-- A worker whose run is noted runs no longer, nor does another one with its card. -/
theorem renewed_of_note (h : w.Sound) {index : Nat} {result : Except Fault Verdict}
    (hadmits : w.Admits (.note index result)) {k : Worker} (hk : w.workers[index]? = some k)
    (hrunning : k.stage = .running) (hP : P (w.step (.note index result)).now) :
    (w.step (.note index result)).Renewed P k.card k.record.start := by
  obtain ⟨-, hnone⟩ | ⟨k', r, outcome, hk', -, hworkers, hwaiting⟩ := w.noteAt_cases index result
  · exact absurd hrunning (hnone k hk)
  obtain rfl : k = k' := Option.some.inj (hk.symm.trans hk')
  refine ⟨?_, ?_, ?_⟩
  · obtain ⟨-, t, ht, hlast, hplan⟩ := task?_note h hadmits hk hrunning
    exact ⟨t, _, ht, hlast, hP, hplan⟩
  · change ∀ k' ∈ (w.noteAt index result).workers, _
    intro k' hk' hcard hrunning'
    rw [hworkers] at hk'
    obtain ⟨i, hi⟩ := List.mem_iff_getElem?.mp hk'
    by_cases hindex : index = i
    · subst hindex
      rw [List.getElem?_set_self (List.getElem?_eq_some_iff.mp hk).1] at hi
      cases hi
      cases hrunning'
    · rw [List.getElem?_set_ne hindex] at hi
      exact hindex (h.unique hk hi hcard.symm)
  · change k.card ∉ (w.noteAt index result).scheduler.waiting
    rw [hwaiting]
    exact h.not_waiting (List.mem_of_getElem? hk)

/-- A renewed plan stays one until the task is started again. -/
theorem Renewed.step (h : w.Renewed P c start) (hs : w.Sound) (hadmits : w.Admits m) (hP : P w.now)
    (hunready : ∀ now, m = .tick now → c ∉ w.scheduler.ready now) :
    (w.step m).Renewed P c start := by
  obtain ⟨⟨t, now, ht, hlast, hnow, hplan⟩, hended, hunstarted⟩ := h
  refine ⟨?_, ?_, ?_⟩
  · obtain ⟨t', ht', hrevision⟩ := revision hs hadmits ht
    cases hrevision with
    | kept same =>
      have hbasis : t'.agenda.basis = t.agenda.basis := congrArg Task.basis same
      change t'.basis = t.basis at hbasis
      have hnext : t'.agenda.nextRun = t.agenda.nextRun := congrArg Task.nextRun same
      change t'.nextRun = t.nextRun at hnext
      refine ⟨t', now, ht', (congrArg Task.lastRun hbasis).trans hlast, hnow, ?_⟩
      rw [Task.nextRunAt_congr hbasis, hplan, hnext]
    | replanned basis plan =>
      exact ⟨t', w.now, ht', (congrArg Task.lastRun basis).trans hlast, hP, plan⟩
    | noted index result k move worker card running last plan =>
      -- No worker with the card is running any more whose run could be noted.
      exact absurd running (hended k (List.mem_of_getElem? worker) card)
  · cases m with
    | begin index =>
      intro k hk hcard
      rcases mem_workers_beginAt hk with hk | hwaits
      · exact hended k hk hcard
      · exact absurd (hcard ▸ hwaits) hunstarted
    | leave index => exact fun k hk => hended k ((w.workers_leaveAt index).1 hk)
    | note index result =>
      change ∀ k ∈ (w.noteAt index result).workers, _
      rcases w.noteAt_cases index result with ⟨hstays, -⟩ | ⟨k', r, outcome, -, -, hworkers, -⟩
      · rw [hstays]
        exact hended
      · rw [hworkers]
        intro k hk hcard
        rcases List.mem_or_eq_of_mem_set hk with hk | rfl
        · exact hended k hk hcard
        · exact fun h => nomatch h
    | _ => exact hended
  · cases m with
    | tick now' =>
      change c ∉ (w.scheduler.tick now').2.waiting
      rw [(w.scheduler.starts_tick now').waiting, List.mem_append, not_or]
      exact ⟨hunstarted, hunready now' rfl⟩
    | begin index =>
      change c ∉ (w.beginAt index).scheduler.waiting
      rcases w.waiting_beginAt index with hsame | hrest
      · rwa [hsame]
      · rw [hrest]
        exact fun hc => hunstarted (List.mem_of_mem_eraseIdx hc)
    | leave index =>
      change c ∉ (w.leaveAt index).scheduler.waiting
      rwa [waiting_leaveAt]
    | add t => exact (w.scheduler.edits_add t).waiting ▸ hunstarted
    | update t => exact hadmits.elim
    | remove id => exact (w.scheduler.edits_remove id).waiting ▸ hunstarted
    | load path => exact hadmits.elim
    | clear => exact hadmits.elim
    | start => exact w.scheduler.revises_start.waiting ▸ hunstarted
    | stop => exact w.scheduler.undisturbed_stop.waiting ▸ hunstarted
    | pass desk runner messenger => exact hunstarted
    | note index result =>
      change c ∉ (w.noteAt index result).scheduler.waiting
      rcases w.noteAt_cases index result with ⟨hstays, -⟩ | ⟨-, -, -, -, -, -, hwaiting⟩
      · rwa [hstays]
      · rwa [hwaiting]

/-- A run that has begun stays begun until the task is started again. -/
theorem Begun.step (h : w.Begun P c start) (hs : w.Sound) (hadmits : w.Admits m) (hP : P w.now)
    (hP' : P (w.step m).now) (hunready : ∀ now, m = .tick now → c ∉ w.scheduler.ready now) :
    (w.step m).Begun P c start := by
  rcases h with hrunning | hrenewed
  · rcases hrunning.step (m := m) with hrunning | ⟨index, result, k, rfl, hk, rfl, hstage, rfl⟩
    · exact .inl hrunning
    · exact .inr (renewed_of_note hs hadmits hk hstage hP')
  · exact .inr (hrenewed.step hs hadmits hP hunready)

/-- A worker that waits goes on waiting until it begins. -/
theorem waiting_step (hc : c ∈ w.scheduler.waiting) (m : Move) :
    c ∈ (w.step m).scheduler.waiting ∨
      ∃ index, m = .begin index ∧ w.scheduler.waiting[index]? = some c := by
  cases m with
  | tick now =>
    left
    change c ∈ (w.scheduler.tick now).2.waiting
    rw [(w.scheduler.starts_tick now).waiting]
    exact List.mem_append_left _ hc
  | begin index =>
    rcases w.waiting_beginAt index with hsame | hrest
    · left
      change c ∈ (w.beginAt index).scheduler.waiting
      rwa [hsame]
    · obtain ⟨i, hi⟩ := List.mem_iff_getElem?.mp hc
      by_cases hindex : i = index
      · exact .inr ⟨index, rfl, hindex ▸ hi⟩
      · left
        change c ∈ (w.beginAt index).scheduler.waiting
        rw [hrest, List.mem_eraseIdx_iff_getElem?]
        exact ⟨i, hindex, hi⟩
  | leave index =>
    left
    change c ∈ (w.leaveAt index).scheduler.waiting
    rwa [waiting_leaveAt]
  | note index result =>
    left
    change c ∈ (w.noteAt index result).scheduler.waiting
    rcases w.noteAt_cases index result with ⟨hstays, -⟩ | ⟨-, -, -, -, -, -, hwaiting⟩
    · rwa [hstays]
    · rwa [hwaiting]
  | add t => exact .inl ((w.scheduler.edits_add t).waiting ▸ hc)
  | update t => exact .inl ((w.scheduler.edits_update t).waiting ▸ hc)
  | remove id => exact .inl ((w.scheduler.edits_remove id).waiting ▸ hc)
  | load path => exact .inl ((w.scheduler.edits_load path).waiting ▸ hc)
  | clear => exact .inl hc
  | start => exact .inl (w.scheduler.revises_start.waiting ▸ hc)
  | stop => exact .inl (w.scheduler.undisturbed_stop.waiting ▸ hc)
  | pass desk runner messenger => exact .inl hc

/-! ## Moves one after the other -/

/-- All moves are in order. -/
def Orderly : WorkerPool → List Move → Prop
  | _, [] => True
  | w, m :: ms => w.Admits m ∧ (w.step m).Orderly ms

instance decidableOrderly : (w : WorkerPool) → (ms : List Move) → Decidable (w.Orderly ms)
  | _, [] => .isTrue trivial
  | w, m :: ms => @instDecidableAnd _ _ inferInstance (decidableOrderly (w.step m) ms)

/-- The readings of the clock: at the beginning, and after each move. -/
def readings : WorkerPool → List Move → List Moment
  | w, [] => [w.now]
  | w, m :: ms => w.now :: (w.step m).readings ms

theorem orderly_append {ms ns : List Move} :
    w.Orderly (ms ++ ns) ↔ w.Orderly ms ∧ (w.after ms).Orderly ns := by
  induction ms generalizing w with
  | nil => simp [Orderly]
  | cons m ms ih => rw [List.cons_append, after_cons, Orderly, Orderly, ih, and_assoc]

/-- The last readings of the clock are those of the last moves. -/
theorem suffix_readings (w : WorkerPool) (ms ns : List Move) :
    (w.after ms).readings ns <:+ w.readings (ms ++ ns) := by
  induction ms generalizing w with
  | nil => exact List.suffix_refl _
  | cons m ms ih => exact (ih (w.step m)).trans (List.suffix_cons _ _)

/-- The first readings of the clock are those of the first moves. -/
theorem prefix_readings (w : WorkerPool) (ms ns : List Move) :
    w.readings ms <+: w.readings (ms ++ ns) := by
  induction ms generalizing w with
  | nil => cases ns <;> exact List.prefix_append [w.now] _
  | cons m ms ih => exact List.cons_prefix_cons.mpr ⟨rfl, ih (w.step m)⟩

theorem mem_readings (w : WorkerPool) (ms : List Move) : w.now ∈ w.readings ms := by
  cases ms <;> exact List.mem_cons_self

/-- The last reading of the clock is the present moment. -/
theorem now_mem_readings (w : WorkerPool) (ms : List Move) : (w.after ms).now ∈ w.readings ms := by
  induction ms generalizing w with
  | nil => exact List.mem_cons_self
  | cons m ms ih => exact List.mem_cons_of_mem _ (ih (w.step m))

theorem Sound.after (h : w.Sound) {ms : List Move} (hms : w.Orderly ms) : (w.after ms).Sound := by
  induction ms generalizing w with
  | nil => exact h
  | cons m ms ih => exact ih (h.step hms.1) hms.2

/-- The task on a card is not started again while some moves are made. -/
def Unstarted (w : WorkerPool) (c : Card) (ms : List Move) : Prop :=
  ∀ front now back, ms = front ++ .tick now :: back → c ∉ (w.after front).scheduler.ready now

theorem Unstarted.head {ms : List Move} (h : w.Unstarted c (m :: ms)) :
    ∀ now, m = .tick now → c ∉ w.scheduler.ready now := by
  rintro now rfl
  exact h [] now ms rfl

theorem Unstarted.tail {ms : List Move} (h : w.Unstarted c (m :: ms)) : (w.step m).Unstarted c ms := by
  rintro front now back rfl
  exact h (m :: front) now back rfl

theorem Unstarted.after {front back : List Move} (h : w.Unstarted c (front ++ back)) :
    (w.after front).Unstarted c back := by
  induction front generalizing w with
  | nil => exact h
  | cons m front ih => exact ih h.tail

/-- A run that has begun stays begun as long as the task is not started again. -/
theorem Begun.after {ms : List Move} (h : w.Begun P c start) (hs : w.Sound) (hms : w.Orderly ms)
    (hP : ∀ r ∈ w.readings ms, P r) (hunstarted : w.Unstarted c ms) :
    (w.after ms).Begun P c start := by
  -- Either the worker is still running, or its run has renewed the plan: each move keeps this.
  induction ms generalizing w with
  | nil => exact h
  | cons m ms ih =>
    have hlater : ∀ r ∈ (w.step m).readings ms, P r := fun r hr => hP r (List.mem_cons_of_mem _ hr)
    have hstep := h.step hs hms.1 (hP _ List.mem_cons_self) (hlater _ (mem_readings _ _))
      hunstarted.head
    exact ih hstep (hs.step hms.1) hms.2 hlater hunstarted.tail

/-- A worker that waits no longer has begun. -/
theorem exists_begin {ms : List Move} (hc : c ∈ w.scheduler.waiting)
    (hend : c ∉ (w.after ms).scheduler.waiting) :
    ∃ front index back, ms = front ++ .begin index :: back ∧
      (w.after front).scheduler.waiting[index]? = some c := by
  induction ms generalizing w with
  | nil => exact absurd hc hend
  | cons m ms ih =>
    rcases waiting_step hc m with hwaits | ⟨index, rfl, hindex⟩
    · obtain ⟨front, index, back, rfl, hindex⟩ := ih hwaits hend
      exact ⟨m :: front, index, back, rfl, hindex⟩
    · exact ⟨[], index, ms, rfl, hindex⟩

/-! ## Two starts of one task -/

/-- A task on a card is started by a look at one moment, started again by a look at another one, and
not started in between. -/
structure Successive (w : WorkerPool) (c : Card) (front : List Move) (first : Moment) (mid : List Move)
    (second : Moment) : Prop where
  /-- The first look starts it. -/
  starts : c ∈ (w.after front).scheduler.ready first
  /-- No look in between does. -/
  rests : (w.after (front ++ [.tick first])).Unstarted c mid
  /-- The second look starts it. -/
  restarts : c ∈ (w.after (front ++ [.tick first] ++ mid)).scheduler.ready second

/-- The worker that waits with a card begins between two looks, after some of the moves in between. -/
def BeginsAt (w : WorkerPool) (c : Card) (front : List Move) (first : Moment) (mid ms : List Move) :
    Prop :=
  ∃ index rest, mid = ms ++ .begin index :: rest ∧
    (w.after (front ++ [.tick first] ++ ms)).scheduler.waiting[index]? = some c

/-- How a task is started again, given its slots at two starts that follow each other. -/
structure Spaced (w : WorkerPool) (c : Card) (front : List Move) (first : Moment) (mid : List Move)
    (second : Moment) (t : Task) (slot slot' : Moment) : Prop where
  /-- The worker that was started first has left. -/
  left : t.id ∉ (w.after (front ++ [.tick first] ++ mid)).busy
  /-- It has begun in between. -/
  begun : ∃ ms, w.BeginsAt c front first mid ms
  /-- The first slot had come at the first start, and the second one has come at the second start. -/
  due : slot.NotAfter first ∧ slot'.NotAfter second
  /-- A task that runs some minutes after its last run is started again when these minutes have
  passed since its run began. -/
  interval : t.rhythm = .interval → ∀ n, t.interval = some n → 0 < n →
    ∀ ms, w.BeginsAt c front first mid ms →
      ∃ d, second.since (w.after (front ++ [.tick first] ++ ms)).now = .ok d ∧ n * 60000000 ≤ d
  /-- A task that runs on some weekdays is started again for a slot behind the first start. -/
  weekly : t.rhythm = .weekly → ∀ d ds, t.days = some (d :: ds) →
    Moment.WithinDay t.time.offset →
    (∀ r ∈ w.readings (front ++ [.tick first] ++ mid), Moment.WithinDay r.offset) →
      first.before slot' = .ok true
  /-- So is a task that runs every day, if its time is not ahead of the clock. -/
  daily : t.rhythm = .daily →
    (∀ r ∈ w.readings (front ++ [.tick first] ++ mid),
      t.time.offset.getD 0 ≤ r.offset.getD 0) → first.before slot' = .ok true

/-- The task of an unfinished worker counts as being run. -/
theorem Sound.inFlight_of_begun (h : w.Sound) {t : Task} (ht : w.scheduler.task? c = some t)
    (hc : c ∈ w.scheduler.waiting ∨ ∃ k ∈ w.workers, k.card = c) : t.id ∈ w.scheduler.inFlight := by
  have hid : w.scheduler.idOf? c = some t.id := by
    unfold Scheduler.idOf?
    rw [ht]
    rfl
  refine h.accounted.inFlight.mem_iff.mpr (List.mem_append.mpr ?_)
  rcases hc with hwaits | ⟨k, hk, rfl⟩
  · exact .inl (List.mem_filterMap.mpr ⟨c, hwaits, hid⟩)
  · have hsame := Option.some.inj (hid.symm.trans (h.workers k hk).1)
    exact .inr (List.mem_map.mpr ⟨k, hk, hsame.symm⟩)

section

variable {front mid : List Move} {first second : Moment}

/-- All readings of the clock from a start on lie behind this start. -/
theorem notAfter_of_mem_readings (hfirst : (w.after front).Admits (.tick first))
    (hclock : (w.readings (front ++ [.tick first] ++ mid)).IsChain Moment.NotAfter) {r : Moment}
    (hr : r ∈ (w.after (front ++ [.tick first])).readings mid) :
    first.NotAfter r ∧ r ∈ w.readings (front ++ [.tick first] ++ mid) := by
  have hsuffix := w.suffix_readings front (.tick first :: mid)
  have hmoves : front ++ .tick first :: mid = front ++ [.tick first] ++ mid := by simp
  rw [hmoves] at hsuffix
  rw [after_concat] at hr
  obtain rfl : first = (w.after front).now := hfirst
  exact ⟨List.rel_of_pairwise_cons (hclock.suffix hsuffix).pairwise hr,
    hsuffix.subset (List.mem_cons_of_mem _ hr)⟩

/-- Before a task is started again, the worker that was started first begins. -/
theorem exists_beginsAt (hw : w.Fresh) (horder : w.Orderly (front ++ [.tick first] ++ mid))
    (h : w.Successive c front first mid second) : ∃ ms, w.BeginsAt c front first mid ms := by
  have hwaits : c ∈ (w.after (front ++ [.tick first])).scheduler.waiting := by
    rw [after_concat]
    change c ∈ ((w.after front).scheduler.tick first).2.waiting
    rw [(Scheduler.starts_tick _ first).waiting]
    exact List.mem_append_right _ h.starts
  have hgone : c ∉ ((w.after (front ++ [.tick first])).after mid).scheduler.waiting := by
    obtain ⟨t, ht, -, hfree⟩ := Scheduler.isReady_eq_true
      ((Scheduler.ready_sublist _ second).2 c h.restarts)
    rw [← after_append]
    exact fun hc => hfree ((hw.sound.after horder).inFlight_of_begun ht (.inl hc))
  obtain ⟨ms, index, rest, hms, hindex⟩ := exists_begin hwaits hgone
  exact ⟨ms, index, rest, hms, by rwa [after_append]⟩

/-- When a task is started again, its plan was renewed by the run that has begun in between. -/
theorem renewed_of_beginsAt (hw : w.Fresh) (horder : w.Orderly (front ++ [.tick first] ++ mid))
    (h : w.Successive c front first mid second)
    (hP : ∀ r ∈ (w.after (front ++ [.tick first])).readings mid, P r) {ms : List Move}
    (hms : w.BeginsAt c front first mid ms) :
    (w.after (front ++ [.tick first] ++ mid)).Renewed P c
      (w.after (front ++ [.tick first] ++ ms)).now := by
  obtain ⟨index, rest, rfl, hindex⟩ := hms
  obtain ⟨t, ht, -, hfree⟩ := Scheduler.isReady_eq_true
    ((Scheduler.ready_sublist _ second).2 c h.restarts)
  have hs := hw.sound.after horder
  rw [← List.append_assoc] at horder
  obtain ⟨hbefore, hbegin, hrest⟩ := orderly_append.mp horder
  have hrunning := running_begin (hw.sound.after hbefore) hindex
  -- What has begun stays begun, and as the task is free again, it is not running any more.
  have hreadings : ∀ r ∈ ((w.after (front ++ [.tick first] ++ ms)).step (.begin index)).readings rest,
      P r := by
    intro r hr
    have hsuffix := (w.after (front ++ [.tick first])).suffix_readings ms (.begin index :: rest)
    rw [← after_append] at hsuffix
    exact hP r (hsuffix.subset (List.mem_cons_of_mem _ hr))
  have hunstarted := h.rests.after.tail
  rw [← after_append] at hunstarted
  have hbegun := Begun.after (.inl hrunning) ((hw.sound.after hbefore).step hbegin) hrest hreadings
    hunstarted
  rw [← after_cons, ← after_append, List.append_assoc _ ms] at hbegun
  rcases hbegun with ⟨k, hk, hcard, -⟩ | hrenewed
  · exact absurd (hs.inFlight_of_begun ht (.inr ⟨k, hk, hcard⟩)) hfree
  · exact hrenewed

/-- A slot behind the reading that it was computed from lies behind an earlier start. -/
theorem before_of_renewed {r slot : Moment} (hsecond : first.NotAfter second)
    (hdue : slot.NotAfter second) (hr : first.NotAfter r) (hlt : r.universal < slot.universal) :
    first.before slot = .ok true := by
  obtain ⟨hsame, -⟩ := Moment.notAfter_iff.mp hsecond
  obtain ⟨hsame', -⟩ := Moment.notAfter_iff.mp hdue
  obtain ⟨-, hle⟩ := Moment.notAfter_iff.mp hr
  exact Moment.before_eq_true_iff.mpr ⟨hsame.trans hsame'.symm, by omega⟩

/-- When moves are in order and the clock never goes back, a task is started again only after the
worker that was started first has left, and for another slot: a task with minutes is started again
when these have passed since its run began, and any other one for a slot behind its first start. -/
theorem after_spaced (hw : w.Fresh)
    (horderly : w.Orderly (front ++ [.tick first] ++ mid ++ [.tick second]))
    (hclock : (w.readings (front ++ [.tick first] ++ mid)).IsChain Moment.NotAfter)
    (h : w.Successive c front first mid second) :
    ∃ t t' slot slot', (w.after front).scheduler.task? c = some t ∧ t.nextRun = some slot ∧
      (w.after (front ++ [.tick first] ++ mid)).scheduler.task? c = some t' ∧
      t'.nextRun = some slot' ∧ t'.charter = t.charter ∧
      w.Spaced c front first mid second t' slot slot' := by
  obtain ⟨horder, hsecond, -⟩ := orderly_append.mp horderly
  obtain ⟨-, hfirst, -⟩ := orderly_append.mp (orderly_append.mp horder).1
  have hs := hw.sound.after horder
  have hlater := fun r hr => notAfter_of_mem_readings (r := r) hfirst hclock hr
  have hbegun := exists_beginsAt hw horder h
  -- The two starts, with the slots that cause them.
  obtain ⟨t, ht, hdue, -⟩ := Scheduler.isReady_eq_true
    ((Scheduler.ready_sublist _ first).2 c h.starts)
  obtain ⟨-, slot, hslot, hcome⟩ := Task.exists_slot_of_isDue hdue
  obtain ⟨t', ht', hdue', hfree⟩ := Scheduler.isReady_eq_true
    ((Scheduler.ready_sublist _ second).2 c h.restarts)
  obtain ⟨henabled, slot', hslot', hcome'⟩ := Task.exists_slot_of_isDue hdue'
  have hcharter : t'.charter = t.charter := by
    obtain ⟨u, hu, hsame⟩ := task?_after ht ([.tick first] ++ mid)
    rw [← after_append, ← List.append_assoc] at hu
    cases hu.symm.trans ht'
    exact hsame
  have hclock' : first.NotAfter second := by
    have hmem := now_mem_readings (w.after (front ++ [.tick first])) mid
    rw [← after_append] at hmem
    exact hsecond ▸ (hlater _ hmem).1
  have hplan {ms : List Move} (hms : w.BeginsAt c front first mid ms) :
      ∃ r, t'.lastRun = some (w.after (front ++ [.tick first] ++ ms)).now ∧ first.NotAfter r ∧
        r ∈ w.readings (front ++ [.tick first] ++ mid) ∧ t'.nextRunAt r = .ok (some slot') := by
    obtain ⟨u, r, hu, hlast, ⟨hafter, hr⟩, hplan⟩ :=
      (renewed_of_beginsAt hw horder h hlater hms).planned
    cases hu.symm.trans ht'
    exact ⟨r, hlast, hafter, hr, hslot' ▸ hplan⟩
  refine ⟨t, t', slot, slot', ht, hslot, ht', hslot', hcharter, ?_, hbegun, ⟨hcome, hcome'⟩, ?_, ?_, ?_⟩
  · exact fun hbusy => hfree (hs.accounted.inFlight.mem_iff.mpr hbusy)
  · intro hinterval n hn hpos ms hms
    obtain ⟨r, hlast, -, -, hnext⟩ := hplan hms
    have hslotAt := Task.nextRunAt_eq_some henabled hnext
    rw [hinterval] at hslotAt
    have hexact := Task.universal_of_nextInterval hn hpos hlast hslotAt
    obtain ⟨-, hle⟩ := Moment.notAfter_iff.mp hcome'
    have hstart : first.NotAfter (w.after (front ++ [.tick first] ++ ms)).now := by
      obtain ⟨index, rest, rfl, -⟩ := hms
      have hmem := now_mem_readings (w.after (front ++ [.tick first])) ms
      rw [← after_append] at hmem
      exact (hlater _ ((prefix_readings _ ms _).subset hmem)).1
    have hsame := (Moment.notAfter_iff.mp hclock').1.symm.trans (Moment.notAfter_iff.mp hstart).1
    exact ⟨_, Moment.since_eq hsame, by omega⟩
  · intro hweekly d ds hds htime hday
    obtain ⟨ms, hms⟩ := hbegun
    obtain ⟨r, -, hafter, hr, hnext⟩ := hplan hms
    have hslotAt := Task.nextRunAt_eq_some henabled hnext
    rw [hweekly] at hslotAt
    have hlt := Task.universal_lt_of_nextWeekly hds (hday r hr) htime hslotAt
    exact before_of_renewed hclock' hcome' hafter hlt
  · intro hdaily hoffset
    obtain ⟨ms, hms⟩ := hbegun
    obtain ⟨r, -, hafter, hr, hnext⟩ := hplan hms
    have hslotAt := Task.nextRunAt_eq_some henabled hnext
    rw [hdaily] at hslotAt
    have hlt := Task.universal_lt_of_nextDaily (hoffset r hr) hslotAt
    exact before_of_renewed hclock' hcome' hafter hlt

end

/-- A worker comes and goes, and the clock goes on to a moment. -/
def lap (later : Moment) : List Move :=
  [.begin 0, .note 0 (.ok (true, none)), .leave 0, .pass (deskAt later) (.planned []) (.planned [])]

theorem unstarted_lap (w : WorkerPool) (c : Card) (later : Moment) : w.Unstarted c (lap later) := by
  intro front now back hlap
  have hmem : Move.tick now ∈ lap later := hlap ▸ List.mem_append_right _ List.mem_cons_self
  simp [lap] at hmem

/-- The beginning of the calendar. -/
def dawn : Moment := ⟨0, none, calendarMicros_pos⟩

/-- Half an hour later. -/
def halfPast : Moment := ⟨1800000000, none, by decide⟩

/-- A task that runs again half an hour after its last run is started again after half an hour. -/
theorem after_spaced_halfHourly :
    (vacant dawn).Successive 0 [.add (halfHourly "t1" "a")] dawn (lap halfPast) halfPast ∧
      ∃ d, halfPast.since dawn = .ok d ∧ 30 * 60000000 ≤ d := by
  have hfresh : (vacant dawn).Fresh := ⟨⟨rfl, rfl, rfl⟩, rfl, rfl⟩
  have hsuccessive : (vacant dawn).Successive 0 [.add (halfHourly "t1" "a")] dawn (lap halfPast)
      halfPast := ⟨by decide +kernel, unstarted_lap _ _ _, by decide +kernel⟩
  obtain ⟨_, t', _, _, -, -, ht', -, -, hspaced⟩ :=
    after_spaced hfresh (by decide +kernel) (by decide +kernel) hsuccessive
  have hkind : (((vacant dawn).after ([.add (halfHourly "t1" "a")] ++ [.tick dawn] ++
      lap halfPast)).scheduler.task? 0).map (fun t => (t.rhythm, t.interval)) =
        some (.interval, some 30) := by decide +kernel
  rw [ht'] at hkind
  obtain ⟨hrhythm, hminutes⟩ := Prod.mk.inj (Option.some.inj hkind)
  have hbegins : (vacant dawn).BeginsAt 0 [.add (halfHourly "t1" "a")] dawn (lap halfPast) [] :=
    ⟨0, _, rfl, by decide +kernel⟩
  obtain ⟨d, hd, hle⟩ := hspaced.interval hrhythm 30 hminutes (by decide) [] hbegins
  have hnow : ((vacant dawn).after ([.add (halfHourly "t1" "a")] ++ [.tick dawn] ++ [])).now =
      dawn := by decide +kernel
  exact ⟨hsuccessive, d, hnow ▸ hd, hle⟩

/-- The first slot of a task comes to a later start, too: the task is not one with minutes, and it is
started again for a slot that is not behind its first start. -/
def Refires (w : WorkerPool) (c : Card) (front : List Move) (first : Moment) (mid : List Move)
    (second : Moment) : Prop :=
  w.Fresh ∧ w.Orderly (front ++ [.tick first] ++ mid ++ [.tick second]) ∧
    (w.readings (front ++ [.tick first] ++ mid)).IsChain Moment.NotAfter ∧
    w.Successive c front first mid second ∧
    ∃ t slot, (w.after (front ++ [.tick first] ++ mid)).scheduler.task? c = some t ∧
      t.nextRun = some slot ∧ t.rhythm ≠ .interval ∧ first.before slot ≠ .ok true

/-- A task that runs on no weekday at all. -/
def onNoWeekday : Task := { halfHourly "t1" "a" with rhythm := .weekly, interval := none }

/-- A task that runs every day at three o'clock, nine hours ahead of universal time. -/
def earlyAhead : Task :=
  { halfHourly "t1" "a" with
    rhythm := .daily, interval := none, time := ⟨10800000000, some 32400000000, by decide⟩ }

/-- Eight in the evening of the second day, in universal time. -/
def evening : Moment := ⟨158400000000, some 0, by decide⟩

/-- A task without weekdays is started at the last moment of the calendar again and again. So is a
task that runs every day, when the next day has begun where its time is told, but not where the clock
stands. -/
theorem refires_at_end_and_ahead :
    (vacant .never).Refires 0 [.add onNoWeekday] .never (lap .never) .never ∧
      (vacant evening).Refires 0 [.add earlyAhead] evening (lap evening) evening := by
  have hany {o : Option Task} {first : Moment} (h : o.any (fun t => t.nextRun.any fun slot =>
      decide (t.rhythm ≠ .interval ∧ first.before slot ≠ .ok true)) = true) :
      ∃ t slot, o = some t ∧ t.nextRun = some slot ∧ t.rhythm ≠ .interval ∧
        first.before slot ≠ .ok true := by
    obtain ⟨t, ht, hslots⟩ := (Option.any_eq_true _ _).mp h
    obtain ⟨slot, hslot, hcase⟩ := (Option.any_eq_true _ _).mp hslots
    exact ⟨t, slot, ht, hslot, of_decide_eq_true hcase⟩
  constructor
  · refine ⟨⟨⟨rfl, rfl, rfl⟩, rfl, rfl⟩, by decide +kernel, by decide +kernel,
      ⟨by decide +kernel, unstarted_lap _ _ _, by decide +kernel⟩, hany ?_⟩
    decide +kernel
  · refine ⟨⟨⟨rfl, rfl, rfl⟩, rfl, rfl⟩, by decide +kernel, by decide +kernel,
      ⟨by decide +kernel, unstarted_lap _ _ _, by decide +kernel⟩, hany ?_⟩
    decide +kernel

end WorkerPool

end Deskwork.Schedule
