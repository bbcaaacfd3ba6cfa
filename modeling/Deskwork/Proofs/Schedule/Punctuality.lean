/-
# Punctuality

A task that runs at a time of day waits for its next slot. When it is planned anew while this slot is
still ahead, it waits for a slot that comes no later (`universal_le_of_nextRunAt`); so between two
looks at the tasks a slot stays awaited whatever happens before it comes, and the second look starts
the task (`startedIds_of_awaits`). When it is planned anew after the slot has come and before the next
look, the slot is passed over.
-/
import Deskwork.Proofs.Schedule.Foresight
import Deskwork.Proofs.Schedule.Roster

namespace Deskwork.Schedule

open Deskwork.Time

namespace Task

variable {t : Task} {now slot next today : Moment} {days : List Weekday}

/-! ## Slots -/

/-- The moment is a slot of a task: it lies at the time of the task, and on one of its weekdays when
the task has weekdays. -/
structure HasSlot (t : Task) (slot : Moment) : Prop where
  /-- The slot lies at the time of the task. -/
  time : slot.atTime t.time = slot
  /-- The task runs every day, or the slot lies on one of its weekdays. -/
  day : t.rhythm = .daily ∨ t.rhythm = .weekly ∧ ∃ days, t.days = some days ∧ fallsOn slot days = true

instance (t : Task) (slot : Moment) : Decidable (t.HasSlot slot) :=
  decidable_of_iff (slot.atTime t.time = slot ∧
      (t.rhythm = .daily ∨ t.rhythm = .weekly ∧ ∃ days ∈ t.days, fallsOn slot days = true))
    ⟨fun h => ⟨h.1, h.2⟩, fun h => ⟨h.time, h.day⟩⟩

/-- A slot that is ahead lies some days after the time of the task on this day, when the time of the
task is not behind the clock. -/
theorem exists_days (htime : slot.atTime t.time = slot)
    (hoffset : now.offset.getD 0 ≤ t.time.offset.getD 0) (hlt : now.universal < slot.universal) :
    ∃ d : Nat, slot.micros = (now.atTime t.time).micros + d * dayMicros ∧
      slot.universal = (now.atTime t.time).universal + d * dayMicros := by
  have hmicros : slot.day * dayMicros + t.time.micros = slot.micros := congrArg Moment.micros htime
  have hslotOffset : t.time.offset = slot.offset := congrArg Moment.offset htime
  have hbound := t.time.inDay
  have hnow : now.day * dayMicros ≤ now.micros := Nat.div_mul_le_self _ _
  have htoday : (now.atTime t.time).micros = now.day * dayMicros + t.time.micros := rfl
  have huniversal : (now.atTime t.time).universal =
    (now.atTime t.time).micros - t.time.offset.getD 0 := rfl
  have hslotUniversal : slot.universal = slot.micros - slot.offset.getD 0 := rfl
  have hnowUniversal : now.universal = now.micros - now.offset.getD 0 := rfl
  have hday : now.day ≤ slot.day := by
    by_contra hless
    -- A slot on an earlier day would have come.
    have hle : (slot.day + 1) * dayMicros ≤ now.day * dayMicros :=
      Nat.mul_le_mul_right _ (by omega)
    rw [Nat.add_mul, Nat.one_mul] at hle
    rw [← hslotOffset] at hslotUniversal
    omega
  have hsplit : slot.day * dayMicros = now.day * dayMicros + (slot.day - now.day) * dayMicros := by
    rw [← Nat.add_mul, Nat.add_sub_cancel' hday]
  refine ⟨slot.day - now.day, by omega, ?_⟩
  rw [huniversal, hslotUniversal, hslotOffset, htoday]
  have hcast : (slot.micros : Int) = (now.day * dayMicros + t.time.micros : Nat) +
      ((slot.day - now.day : Nat) : Int) * dayMicros := by
    rw [← hmicros, hsplit]
    push_cast
    omega
  rw [hcast]
  omega

/-- What is found on one of some weekdays comes no later than a slot that is ahead. -/
theorem universal_le_of_firstOn {d j n : Nat} (hj : j + n = 7) (hjd : j ≤ d)
    (hfalls : (days.any fun x => x.number == (today.day + d) % 7) = true)
    (hlt : now.universal < today.universal + d * dayMicros)
    (h : firstOn days now today (List.range' j n) = .ok next) :
    next.universal ≤ today.universal + d * dayMicros := by
  have hmono {k : Nat} (hk : k ≤ d) : today.universal + k * (dayMicros : Int) ≤
      today.universal + d * dayMicros := by
    have hle : ((k * dayMicros : Nat) : Int) ≤ ((d * dayMicros : Nat) : Int) :=
      Int.ofNat_le.mpr (Nat.mul_le_mul_right _ hk)
    push_cast at hle
    omega
  induction n generalizing j with
  | zero =>
    obtain rfl : j = 7 := hj
    rw [Moment.universal_addDays h]
    exact hmono hjd
  | succ n ih =>
    rw [List.range'_succ] at h
    cases hcandidate : today.addDays j with
    | error f =>
      rw [firstOn, hcandidate] at h
      cases h
    | ok candidate =>
      have huniversal := Moment.universal_addDays hcandidate
      rw [firstOn_cons hcandidate, fallsOn_addDays hcandidate] at h
      have hlater (hne : j ≠ d)
          (h : firstOn days now today (List.range' (j + 1) n) = .ok next) :
          next.universal ≤ today.universal + d * dayMicros :=
        ih (by omega) (by omega) h
      split at h
      next hday =>
        rcases eq_ok_of_choice h with ⟨-, hfound⟩ | ⟨hbehind, hrest⟩
        · cases hfound
          rw [huniversal]
          exact hmono hjd
        · refine hlater ?_ hrest
          rintro rfl
          have hcomparable := Moment.exists_before_iff.mp ⟨_, hbehind⟩
          have hahead := Moment.before_eq_true_iff.mpr ⟨hcomparable, huniversal ▸ hlt⟩
          cases hbehind.symm.trans hahead
      next hday =>
        refine hlater ?_ h
        rintro rfl
        exact hday hfalls

/-- What is found on one of some weekdays, or a week later, has the offset of the day that the search
began with. -/
theorem offset_of_firstOn {ks : List Nat} (h : firstOn days now today ks = .ok next) :
    next.offset = today.offset := by
  induction ks with
  | nil =>
    have hweek : today.addDays 7 = .ok next := h
    exact (Moment.shift_eq_ok hweek).2
  | cons k ks ih =>
    cases hcandidate : today.addDays k with
    | error f =>
      rw [firstOn, hcandidate] at h
      cases h
    | ok candidate =>
      rw [firstOn_cons hcandidate] at h
      split at h
      · rcases eq_ok_of_choice h with ⟨-, hfound⟩ | ⟨-, hrest⟩
        · cases hfound
          exact (Moment.shift_eq_ok hcandidate).2
        · exact ih hrest
      · exact ih h

/-- The next run of a task that runs every day comes no later than a slot that is ahead. -/
theorem universal_le_of_nextDaily (htime : slot.atTime t.time = slot)
    (hoffset : now.offset.getD 0 ≤ t.time.offset.getD 0) (hlt : now.universal < slot.universal)
    (h : t.nextDaily now = .ok next) :
    next.offset = t.time.offset ∧ next.universal ≤ slot.universal := by
  obtain ⟨d, -, hslot⟩ := exists_days htime hoffset hlt
  unfold nextDaily at h
  rcases eq_ok_of_choice h with ⟨-, htoday⟩ | ⟨hbehind, htomorrow⟩
  · cases htoday
    refine ⟨rfl, ?_⟩
    rw [hslot]
    exact Int.le_add_of_nonneg_right (Int.natCast_nonneg (d * dayMicros))
  · have hcomparable := Moment.exists_before_iff.mp ⟨_, hbehind⟩
    have hpositive : 1 ≤ d := by
      by_contra hzero
      -- The slot of this day has come.
      obtain rfl : d = 0 := by omega
      rw [Int.natCast_zero, Int.zero_mul, Int.add_zero] at hslot
      have hahead := Moment.before_eq_true_iff.mpr ⟨hcomparable, hslot ▸ hlt⟩
      cases hbehind.symm.trans hahead
    refine ⟨(Moment.shift_eq_ok htomorrow).2, ?_⟩
    have hday : ((1 * dayMicros : Nat) : Int) ≤ ((d * dayMicros : Nat) : Int) :=
      Int.ofNat_le.mpr (Nat.mul_le_mul_right _ hpositive)
    push_cast at hday
    rw [Moment.universal_addDays htomorrow, hslot]
    push_cast
    omega

/-- The next run of a task that runs on some weekdays comes no later than a slot that is ahead. -/
theorem universal_le_of_nextWeekly (htime : slot.atTime t.time = slot) (hdays : t.days = some days)
    (hfalls : fallsOn slot days = true) (hoffset : now.offset.getD 0 ≤ t.time.offset.getD 0)
    (hlt : now.universal < slot.universal) (h : t.nextWeekly now = .ok next) :
    next.offset = t.time.offset ∧ next.universal ≤ slot.universal := by
  obtain ⟨d, hmicros, hslot⟩ := exists_days htime hoffset hlt
  obtain ⟨first, rest, rfl⟩ : ∃ first rest, days = first :: rest := by
    cases days with
    | nil => cases hfalls
    | cons first rest => exact ⟨first, rest, rfl⟩
  unfold nextWeekly at h
  rw [hdays, List.range_eq_range'] at h
  dsimp only at h
  refine ⟨offset_of_firstOn h, ?_⟩
  have hweekday : slot.weekday = ((now.atTime t.time).day + d) % 7 := by
    unfold Moment.weekday weekdayOfDay Moment.day
    rw [hmicros, Nat.add_mul_div_right _ _ (by decide)]
  unfold fallsOn at hfalls
  rw [hweekday] at hfalls
  rw [hslot] at hlt ⊢
  exact universal_le_of_firstOn rfl (Nat.zero_le d) hfalls hlt h

/-- An enabled task that is planned runs again at some moment. -/
theorem exists_some_of_nextRunAt {o : Option Moment} (henabled : t.enabled = true)
    (h : t.nextRunAt now = .ok o) : ∃ next, o = some next := by
  have hsome {x : Except Time.Fault Moment} (hx : (x.map some).mapError Fault.time = .ok o) :
      ∃ next, o = some next := by
    cases x with
    | error f => cases hx
    | ok next =>
      cases hx
      exact ⟨next, rfl⟩
  unfold nextRunAt at h
  rw [if_pos henabled] at h
  cases hrhythm : t.rhythm
  all_goals
    rw [hrhythm] at h
    exact hsome h

/-- A task that is planned while one of its slots is ahead runs next no later than in this slot, when
its time is not behind the clock. -/
theorem universal_le_of_nextRunAt {o : Option Moment} (henabled : t.enabled = true)
    (hslot : t.HasSlot slot) (hoffset : now.offset.getD 0 ≤ t.time.offset.getD 0)
    (hahead : ¬ slot.NotAfter now) (h : t.nextRunAt now = .ok o) :
    ∃ next, o = some next ∧ next.offset.isSome = slot.offset.isSome ∧
      next.universal ≤ slot.universal := by
  obtain ⟨next, rfl⟩ := exists_some_of_nextRunAt henabled h
  have hslotOffset : t.time.offset = slot.offset := congrArg Moment.offset hslot.time
  have hseen := exists_nextRunAt_iff.mp ⟨_, h⟩ henabled
  have hplan := nextRunAt_eq_some henabled h
  -- The slot can be compared with the clock, since the next run was computed.
  have hlt (hcomparable : now.Comparable (now.atTime t.time)) : now.universal < slot.universal := by
    have hsame : now.offset.isSome = slot.offset.isSome :=
      hcomparable.trans (congrArg Option.isSome hslotOffset)
    by_contra hcome
    exact hahead (Moment.notAfter_iff.mpr ⟨hsame.symm, by omega⟩)
  refine ⟨next, rfl, ?_⟩
  rcases hslot.day with hdaily | ⟨hweekly, days, hdays, hfalls⟩
  · rw [hdaily] at hseen hplan
    obtain ⟨hnext, hle⟩ := universal_le_of_nextDaily hslot.time hoffset (hlt hseen.1) hplan
    exact ⟨congrArg Option.isSome (hnext.trans hslotOffset), hle⟩
  · rw [hweekly] at hseen hplan
    obtain ⟨first, rest, rfl⟩ : ∃ first rest, days = first :: rest := by
      cases days with
      | nil => cases hfalls
      | cons first rest => exact ⟨first, rest, rfl⟩
    have hcomparable := (hseen first rest hdays).1
    obtain ⟨hnext, hle⟩ :=
      universal_le_of_nextWeekly hslot.time hdays hfalls hoffset (hlt hcomparable) hplan
    exact ⟨congrArg Option.isSome (hnext.trans hslotOffset), hle⟩

/-! ## Awaited slots -/

/-- When a task runs: whether it does at all, how often, at which time, on which days and after which
minutes. -/
def schedule (t : Task) : Bool × Rhythm × TimeOfDay × Option (List Weekday) × Option Int :=
  (t.enabled, t.rhythm, t.time, t.days, t.interval)

/-- Two tasks run at the same times. -/
def SameSchedule (u t : Task) : Prop := u.schedule = t.schedule

instance (u t : Task) : Decidable (u.SameSchedule t) := inferInstanceAs (Decidable (_ = _))

/-- A task awaits a slot: it runs next no later than in this slot. -/
structure Awaiting (t : Task) (slot : Moment) : Prop where
  /-- The task is enabled. -/
  enabled : t.enabled = true
  /-- The moment is one of its slots. -/
  serves : t.HasSlot slot
  /-- Its next run comes no later. -/
  next : ∃ next, t.nextRun = some next ∧ next.offset.isSome = slot.offset.isSome ∧
    next.universal ≤ slot.universal

variable {u t' : Task}

theorem HasSlot.congr (h : t.HasSlot slot) (hsame : u.SameSchedule t) : u.HasSlot slot := by
  obtain ⟨-, hrhythm, htime, hdays, -⟩ :
      u.enabled = t.enabled ∧ u.rhythm = t.rhythm ∧ u.time = t.time ∧ u.days = t.days ∧
        u.interval = t.interval := by
    simpa [SameSchedule, schedule] using hsame
  refine ⟨htime ▸ h.time, ?_⟩
  rw [hrhythm, hdays]
  exact h.day

/-- A task that is planned while a slot is ahead awaits it. -/
theorem awaiting_of_planned (henabled : t.enabled = true) (hslot : t.HasSlot slot)
    (hoffset : now.offset.getD 0 ≤ slot.offset.getD 0) (hahead : ¬ slot.NotAfter now)
    (h : t.planned now = .ok t') : t'.Awaiting slot := by
  obtain ⟨o, ho, rfl⟩ := planned_eq_ok_iff.mp h
  have htime : t.time.offset = slot.offset := congrArg Moment.offset hslot.time
  obtain ⟨next, rfl, hnext⟩ :=
    universal_le_of_nextRunAt henabled hslot (htime ▸ hoffset) hahead ho
  exact ⟨henabled, ⟨hslot.time, hslot.day⟩, next, rfl, hnext⟩

/-- A task whose run is over while a slot is ahead still awaits it. -/
theorem Awaiting.renewed (h : t.Awaiting slot) (start : Moment)
    (hoffset : now.offset.getD 0 ≤ slot.offset.getD 0) (hahead : ¬ slot.NotAfter now) :
    (t.renewed start now).Awaiting slot := by
  have hslot : (t.ranAt start).HasSlot slot := ⟨h.serves.time, h.serves.day⟩
  unfold Task.renewed
  cases hplanned : (t.ranAt start).planned now with
  | error f =>
    rw [replanned_of_error hplanned]
    exact ⟨h.enabled, hslot, h.next⟩
  | ok t' =>
    rw [replanned_of_ok hplanned]
    exact awaiting_of_planned (t := t.ranAt start) h.enabled hslot hoffset hahead hplanned

/-- A task that awaits a slot is due when the slot has come. -/
theorem Awaiting.isDue (h : t.Awaiting slot) (hcome : slot.NotAfter now) : t.isDue now = .ok true := by
  obtain ⟨next, hnext, hoffset, hle⟩ := h.next
  obtain ⟨hsame, hle'⟩ := Moment.notAfter_iff.mp hcome
  have hdue : next.notAfter now = .ok true :=
    Moment.notAfter_iff.mpr ⟨hoffset.trans hsame, Int.le_trans hle hle'⟩
  unfold Task.isDue
  rw [if_pos h.enabled, hnext]
  dsimp only
  rw [hdue]
  rfl

end Task

namespace Scheduler

variable {s : Scheduler} {c : Card} {now : Moment}

/-- What is ready is started, when all tasks can be looked at. -/
theorem mem_of_readyAmong {cs ready : List Card} (h : s.readyAmong now cs = .ok ready) (hc : c ∈ cs)
    (hready : s.isReady now c = .ok true) : c ∈ ready := by
  induction cs generalizing ready with
  | nil => cases hc
  | cons d cs ih =>
    unfold readyAmong at h
    cases hd : s.isReady now d with
    | error f =>
      rw [hd] at h
      cases h
    | ok b =>
      cases hcs : s.readyAmong now cs with
      | error f =>
        rw [hd, hcs] at h
        cases h
      | ok others =>
        rw [hd, hcs] at h
        rcases List.mem_cons.mp hc with rfl | hc
        · cases hd.symm.trans hready
          cases h
          exact List.mem_cons_self
        · have hmem := ih hcs hc
          cases b with
          | false =>
            cases h
            exact hmem
          | true =>
            cases h
            exact List.mem_cons_of_mem _ hmem

end Scheduler

namespace WorkerPool

variable {w : WorkerPool} {m : Move} {id : String} {t : Task} {slot now first second : Moment}
  {front mid : List Move}

/-- The worker at an index is about to end a run of a task with an identifier. -/
def Ends (w : WorkerPool) (id : String) (index : Nat) : Prop :=
  ∃ k ∈ w.workers[index]?, k.stage.isRunning = true ∧ k.task.id = id

/-- A move plans the listed task with an identifier anew: a start, an update of this task, or the end
of its run. -/
def Replans (id : String) (w : WorkerPool) : Move → Prop
  | .start => True
  | .update u => u.id = id
  | .note index _ => w.Ends id index
  | _ => False

/-- A move leaves a listed task to its slot: it is no look at the tasks, it keeps the task listed, an
update keeps its schedule, and no run of it is noted when the slot has come. -/
def LeavesTo (id : String) (slot : Moment) (w : WorkerPool) : Move → Prop
  | .tick _ => False
  | .update u => u.id = id → ∀ t ∈ w.get? id, u.SameSchedule t
  | .note index _ => w.Ends id index → ¬ slot.NotAfter w.now
  | m => ¬ m.Drops id

/-- A move plans a task anew only while a slot is ahead, and by a clock whose offset is not ahead of
that of the slot. -/
def InTime (id : String) (slot : Moment) (w : WorkerPool) (m : Move) : Prop :=
  Replans id w m → ¬ slot.NotAfter w.now ∧ w.now.offset.getD 0 ≤ slot.offset.getD 0

/-- The listed task with an identifier is due and not being run, and all tasks can be looked at. -/
theorem Tidy.mem_startedIds (h : w.Tidy) (ht : w.get? id = some t) (hdue : t.isDue now = .ok true)
    (hfree : id ∉ w.scheduler.inFlight) (hlooks : (w.scheduler.tick now).1.isOk = true) :
    id ∈ w.startedIds now := by
  obtain ⟨c, hlisted, htask, rfl⟩ := h.distinct.get?_eq_some_iff.mp ht
  have hready : w.scheduler.isReady now c = .ok true := by
    unfold Scheduler.isReady
    rw [htask]
    dsimp only
    rw [hdue]
    simp [Except.map, hfree]
  refine List.mem_filterMap.mpr ⟨c, ?_, Scheduler.idOf?_of_task? htask⟩
  unfold Scheduler.ready
  unfold Scheduler.tick at hlooks
  cases hamong : w.scheduler.readyAmong now w.scheduler.listed with
  | error f =>
    rw [hamong] at hlooks
    cases hlooks
  | ok cs => exact Scheduler.mem_of_readyAmong hamong hlisted hready

instance (w : WorkerPool) (id : String) (index : Nat) : Decidable (w.Ends id index) :=
  inferInstanceAs (Decidable (∃ k ∈ w.workers[index]?, k.stage.isRunning = true ∧ k.task.id = id))

instance (m : Move) (id : String) : Decidable (m.Drops id) :=
  match m with
  | .remove other => inferInstanceAs (Decidable (other = id))
  | .load _ | .clear => .isTrue trivial
  | .add _ | .update _ | .start | .stop | .tick _ | .pass .. | .begin _ | .note .. | .leave _ =>
    .isFalse not_false

instance (id : String) (w : WorkerPool) (m : Move) : Decidable (Replans id w m) :=
  match m with
  | .start => .isTrue trivial
  | .update u => inferInstanceAs (Decidable (u.id = id))
  | .note index _ => inferInstanceAs (Decidable (w.Ends id index))
  | .add _ | .remove _ | .load _ | .clear | .stop | .tick _ | .pass .. | .begin _ | .leave _ =>
    .isFalse not_false

instance (id : String) (slot : Moment) (w : WorkerPool) (m : Move) : Decidable (LeavesTo id slot w m) :=
  match m with
  | .tick _ => .isFalse not_false
  | .update u => inferInstanceAs (Decidable (u.id = id → ∀ t ∈ w.get? id, u.SameSchedule t))
  | .note index _ => inferInstanceAs (Decidable (w.Ends id index → ¬ slot.NotAfter w.now))
  | .add t => inferInstanceAs (Decidable (¬ (Move.add t).Drops id))
  | .remove other => inferInstanceAs (Decidable (¬ (Move.remove other).Drops id))
  | .load path => inferInstanceAs (Decidable (¬ (Move.load path).Drops id))
  | .clear => inferInstanceAs (Decidable (¬ Move.clear.Drops id))
  | .start => .isTrue not_false
  | .stop => .isTrue not_false
  | .pass .. => .isTrue not_false
  | .begin _ => .isTrue not_false
  | .leave _ => .isTrue not_false

instance (id : String) (slot : Moment) (w : WorkerPool) (m : Move) : Decidable (InTime id slot w m) :=
  inferInstanceAs (Decidable (Replans id w m →
    ¬ slot.NotAfter w.now ∧ w.now.offset.getD 0 ≤ slot.offset.getD 0))

/-- A task that awaits a slot and is left to it goes on awaiting it, when it is planned anew in time. -/
theorem Tidy.awaiting_step (h : w.Tidy) (hm : w.Separates m) (hleaves : LeavesTo id slot w m)
    (hreplans : InTime id slot w m) (ht : w.get? id = some t) (hawaits : t.Awaiting slot) :
    ∃ t', (w.step m).get? id = some t' ∧ t'.Awaiting slot := by
  rcases h.change hm ht with ⟨t', ht', hchange⟩ | hdropped
  · refine ⟨t', ht', ?_⟩
    rcases hchange with rfl | ⟨rfl, hplanned⟩ | ⟨u, rfl, hid, hplanned⟩ |
      ⟨index, result, k, rfl, hk, hrunning, hid, rfl⟩ | ⟨index, k, rfl, -, -, rfl⟩
    · exact hawaits
    · obtain ⟨hahead, hoffset⟩ := hreplans trivial
      exact Task.awaiting_of_planned hawaits.enabled hawaits.serves hoffset hahead hplanned
    · obtain ⟨hahead, hoffset⟩ := hreplans hid
      have hsame : (Scheduler.takeOver u t).SameSchedule t := hleaves hid t ht
      have henabled : (Scheduler.takeOver u t).enabled = t.enabled := congrArg Prod.fst hsame
      exact Task.awaiting_of_planned (henabled.trans hawaits.enabled) (hawaits.serves.congr hsame)
        hoffset hahead hplanned
    · obtain ⟨hahead, hoffset⟩ := hreplans ⟨k, hk, congrArg Stage.isRunning hrunning, hid⟩
      exact hawaits.renewed k.record.start hoffset hahead
    · exact ⟨hawaits.enabled, ⟨hawaits.serves.time, hawaits.serves.day⟩, hawaits.next⟩
  · cases m with
    | remove | load | clear => exact absurd hdropped hleaves
    | _ => exact hdropped.elim

theorem Tidy.awaiting_after {ms : List Move} (h : w.Tidy) (hapart : w.Apart ms)
    (hleaves : w.Along (LeavesTo id slot) ms) (hreplans : w.Along (InTime id slot) ms)
    (ht : w.get? id = some t) (hawaits : t.Awaiting slot) :
    ∃ t', (w.after ms).get? id = some t' ∧ t'.Awaiting slot := by
  induction ms generalizing w t with
  | nil => exact ⟨t, ht, hawaits⟩
  | cons m ms ih =>
    obtain ⟨t', ht', hawaits'⟩ := h.awaiting_step hapart.1 hleaves.1 hreplans.1 ht hawaits
    exact ih (h.step hapart.1) hapart.2 hleaves.2 hreplans.2 ht' hawaits'

/-- Between two looks at the tasks, one following the other, a slot comes that was the next run of an
enabled task at the first one; in between, the task is left to its slot, and at the second look it is
not being run. -/
structure Awaits (w : WorkerPool) (front : List Move) (first : Moment) (mid : List Move)
    (second : Moment) (id : String) (slot : Moment) : Prop where
  /-- The identifiers are kept apart. -/
  apart : w.Apart (front ++ [.tick first] ++ mid)
  /-- At the first look, the next run of the listed task is in this slot. -/
  awaited : ∃ t ∈ (w.after front).get? id, t.enabled = true ∧ t.HasSlot slot ∧ t.nextRun = some slot
  /-- The slot lies behind the first look. -/
  ahead : first.before slot = .ok true
  /-- The slot has come at the second look. -/
  come : slot.NotAfter second
  /-- The moves in between leave the task to its slot. -/
  leaves : (w.after (front ++ [.tick first])).Along (LeavesTo id slot) mid
  /-- The task is not being run at the second look. -/
  free : id ∉ (w.after (front ++ [.tick first] ++ mid)).scheduler.inFlight

instance (w : WorkerPool) (front : List Move) (first : Moment) (mid : List Move) (second : Moment)
    (id : String) (slot : Moment) : Decidable (w.Awaits front first mid second id slot) :=
  decidable_of_iff (w.Apart (front ++ [.tick first] ++ mid) ∧
      (∃ t ∈ (w.after front).get? id, t.enabled = true ∧ t.HasSlot slot ∧ t.nextRun = some slot) ∧
      first.before slot = .ok true ∧ slot.NotAfter second ∧
      (w.after (front ++ [.tick first])).Along (LeavesTo id slot) mid ∧
      id ∉ (w.after (front ++ [.tick first] ++ mid)).scheduler.inFlight)
    ⟨fun ⟨h₁, h₂, h₃, h₄, h₅, h₆⟩ => ⟨h₁, h₂, h₃, h₄, h₅, h₆⟩,
      fun h => ⟨h.apart, h.awaited, h.ahead, h.come, h.leaves, h.free⟩⟩

/-- The second look starts a task whose slot has come since the first one, when the task was planned
anew in time and all tasks can be looked at. -/
theorem startedIds_of_awaits (hidle : w.Idle) (hdistinct : w.scheduler.Distinct)
    (h : w.Awaits front first mid second id slot)
    (hreplans : (w.after (front ++ [.tick first])).Along (InTime id slot) mid)
    (hlooks : ((w.after (front ++ [.tick first] ++ mid)).scheduler.tick second).1.isOk = true) :
    id ∈ (w.after (front ++ [.tick first] ++ mid)).startedIds second := by
  obtain ⟨hearly, hmid⟩ := along_append.mp h.apart
  obtain ⟨hfront, -⟩ := along_append.mp hearly
  have htidy := (hidle.tidy hdistinct).after hearly
  obtain ⟨t, ht, henabled, hslot, hnext⟩ := h.awaited
  -- The first look leaves the task as it is.
  have hfirst : (w.after (front ++ [.tick first])).get? id = some t := by
    have hstarts := (w.after front).scheduler.starts_tick first
    rw [after_concat]
    exact (congrFun (Scheduler.get?_congr hstarts.cards hstarts.listed) id).trans ht
  obtain ⟨t', ht', hawaits⟩ := htidy.awaiting_after hmid h.leaves hreplans hfirst
    ⟨henabled, hslot, slot, hnext, rfl, Int.le_refl _⟩
  have hfree := h.free
  rw [after_append] at hfree hlooks ⊢
  exact (htidy.after hmid).mem_startedIds ht' (hawaits.isDue h.come) hfree hlooks

/-- A task that runs every day at a time. -/
def everyDay (id name : String) (time : TimeOfDay) : Task :=
  { halfHourly id name with rhythm := .daily, time := time, interval := none }

/-- Noon. -/
def noon (offset : Option Int) : TimeOfDay := ⟨43200000000, offset, by decide⟩

/-- A minute before noon. -/
def beforeNoon (offset : Option Int) : Moment := ⟨43140000000, offset, by decide⟩

/-- Five seconds after noon. -/
def pastNoon (offset : Option Int) : Moment := ⟨43205000000, offset, by decide⟩

/-- The clock goes on to a moment. -/
def passTo (later : Moment) : Move := .pass (deskAt later) (.planned []) (.planned [])

/-- A task that was given another name a minute before its slot is started at the next look. -/
theorem startedIds_of_awaits_renamed :
    (vacant (beforeNoon none)).Awaits [.add (everyDay "t1" "a" (noon none))] (beforeNoon none)
        [.update (everyDay "t1" "b" (noon none)), passTo (pastNoon none)] (pastNoon none) "t1"
        ((beforeNoon none).atTime (noon none)) ∧
      "t1" ∈ ((vacant (beforeNoon none)).after ([.add (everyDay "t1" "a" (noon none))] ++
        [.tick (beforeNoon none)] ++
        [.update (everyDay "t1" "b" (noon none)), passTo (pastNoon none)])).startedIds
          (pastNoon none) := by
  have hidle : (vacant (beforeNoon none)).Idle := ⟨rfl, rfl, rfl⟩
  have hawaits : (vacant (beforeNoon none)).Awaits [.add (everyDay "t1" "a" (noon none))]
      (beforeNoon none) [.update (everyDay "t1" "b" (noon none)), passTo (pastNoon none)]
      (pastNoon none) "t1" ((beforeNoon none).atTime (noon none)) := by decide +kernel
  exact ⟨hawaits, startedIds_of_awaits hidle (by decide) hawaits (by decide +kernel)
    (by decide +kernel)⟩

/-- A slot that a task awaits comes, and the second look does not start the task. -/
def Misses (w : WorkerPool) (front : List Move) (first : Moment) (mid : List Move) (second : Moment)
    (id : String) (slot : Moment) : Prop :=
  w.Idle ∧ w.scheduler.Distinct ∧ w.Awaits front first mid second id slot ∧
    id ∉ (w.after (front ++ [.tick first] ++ mid)).startedIds second

/-- Eleven in the evening, five hours behind universal time. -/
def lateEvening : TimeOfDay := ⟨82800000000, some (-18000000000), by decide⟩

/-- An hour of universal time, counted from the beginning of the calendar. -/
def hourAfterDawn (n : Nat) (h : n < 48) : Moment :=
  ⟨n * 3600000000, some 0, by unfold calendarMicros; omega⟩

/-- A slot is missed when its task is given another name between the slot and the next look; when it is
given another name before the slot, by a clock whose day is ahead of that of the slot; and when another
task, which never runs, cannot be compared with the clock. -/
theorem misses_behind_and_across_and_beside :
    Misses (vacant (beforeNoon none)) [.add (everyDay "t1" "a" (noon none))] (beforeNoon none)
        [passTo (pastNoon none), .update (everyDay "t1" "b" (noon none))] (pastNoon none) "t1"
        ((beforeNoon none).atTime (noon none)) ∧
      Misses (vacant (hourAfterDawn 22 (by decide))) [.add (everyDay "t1" "a" lateEvening)]
        (hourAfterDawn 22 (by decide))
        [passTo (hourAfterDawn 27 (by decide)), .update (everyDay "t1" "b" lateEvening),
          passTo (hourAfterDawn 28 (by decide))] (hourAfterDawn 28 (by decide)) "t1"
        ((hourAfterDawn 22 (by decide)).atTime lateEvening) ∧
      Misses (vacant (beforeNoon (some 0)))
        [.add (everyDay "t1" "a" (noon (some 0))),
          .add { halfHourly "t2" "b" with interval := none }] (beforeNoon (some 0))
        [passTo (pastNoon (some 0))] (pastNoon (some 0)) "t1"
        ((beforeNoon (some 0)).atTime (noon (some 0))) := by
  refine ⟨⟨⟨rfl, rfl, rfl⟩, by decide, ?_⟩, ⟨⟨rfl, rfl, rfl⟩, by decide, ?_⟩,
    ⟨⟨rfl, rfl, rfl⟩, by decide, ?_⟩⟩
  all_goals decide +kernel

end WorkerPool

end Deskwork.Schedule
