/-
# The Soonest Slot

A task that runs at a time of day runs next in its soonest slot: of all moments that come after the clock,
lie at the time of the task and, if it has weekdays, on one of them, there is none before the next run. The
main statement, `nextRunAt_soonest`, says this of clocks and times without an offset, together with the
fact that there is such a slot within a week as long as the calendar does not end.
-/
import Deskwork.Proofs.Schedule.Punctuality

namespace Deskwork

namespace Time.Moment

variable {m n now : Moment} {t : TimeOfDay} {p q : Moment → Prop}

/-! ## The soonest of some moments -/

/-- The soonest of some moments that come after another one. -/
structure SoonestAfter (p : Moment → Prop) (now m : Moment) : Prop where
  /-- It comes after the other one. -/
  ahead : now.before m = .ok true
  /-- It is one of them. -/
  suits : p m
  /-- None of them that comes after the other one comes before it. -/
  least : ∀ n, p n → now.before n = .ok true → m.NotAfter n

/-- Only moments that come after the other one matter. -/
theorem SoonestAfter.congr (h : SoonestAfter p now m)
    (same : ∀ n, now.before n = .ok true → (p n ↔ q n)) : SoonestAfter q now m where
  ahead := h.ahead
  suits := (same m h.ahead).mp h.suits
  least n suits ahead := h.least n ((same n ahead).mpr suits) ahead

/-- What comes after a moment without an offset has none. -/
theorem offset_of_before (naive : now.offset = none) (h : now.before n = .ok true) :
    n.offset = none := by
  have same := (before_eq_true_iff.mp h).1
  rw [naive] at same
  exact Option.isNone_iff_eq_none.mp (by simpa using same.symm)

/-! ## Days and times -/

/-- A moment is made of its day and its time. -/
theorem day_mul_add_time (m : Moment) : m.day * dayMicros + m.time.micros = m.micros :=
  Nat.div_add_mod' m.micros dayMicros

/-- A moment that is taken to another time is at that time. -/
theorem time_atTime (m : Moment) (t : TimeOfDay) : (m.atTime t).time.micros = t.micros := by
  show (m.day * dayMicros + t.micros) % dayMicros = t.micros
  rw [Nat.mul_comm, Nat.mul_add_mod, Nat.mod_eq_of_lt t.inDay]

/-- A moment is at a time already when the clock shows this time with the same offset. -/
theorem atTime_eq_self_iff :
    m.atTime t = m ↔ m.time.micros = t.micros ∧ m.offset = t.offset := by
  constructor
  · intro same
    rw [← same]
    exact ⟨m.time_atTime t, rfl⟩
  · rintro ⟨time, offset⟩
    have micros : (m.atTime t).micros = m.micros := by
      rw [← m.day_mul_add_time, time]
      rfl
    obtain ⟨_, _, _⟩ := m
    cases offset
    simp only [atTime, mk.injEq, and_true] at micros ⊢
    exact micros

theorem micros_addDays {days : Nat} (h : m.addDays days = .ok n) :
    n.micros = m.micros + days * dayMicros := by
  have micros := (shift_eq_ok h).1
  omega

/-- Some days later it is the same time. -/
theorem time_addDays {days : Nat} (h : m.addDays days = .ok n) : n.time = m.time := by
  simp only [time, micros_addDays h, Nat.add_mul_mod_self_right]

/-- Some days later it is at a time when it was before, and the other way round. -/
theorem atTime_addDays {days : Nat} (h : m.addDays days = .ok n) :
    n.atTime t = n ↔ m.atTime t = m := by
  rw [atTime_eq_self_iff, atTime_eq_self_iff, time_addDays h, (shift_eq_ok h).2]

/-- A moment that does not lie in the first days of the calendar comes some days after another one. -/
theorem exists_addDays_eq {days : Nat} (h : days * dayMicros ≤ m.micros) :
    ∃ earlier : Moment, earlier.addDays days = .ok m := by
  have inside : m.micros - days * dayMicros < calendarMicros :=
    Nat.lt_of_le_of_lt (Nat.sub_le _ _) m.inCalendar
  let before : Moment := ⟨m.micros - days * dayMicros, m.offset, inside⟩
  obtain ⟨n, later⟩ : ∃ n, before.addDays days = .ok n :=
    exists_addDays_iff.mpr (by simpa [before, Nat.sub_add_cancel h] using m.inCalendar)
  have same : n = m := by
    have micros := micros_addDays later
    have offset := (shift_eq_ok later).2
    simp only [before, Nat.sub_add_cancel h] at micros
    obtain ⟨_, _, _⟩ := n
    obtain ⟨_, _, _⟩ := m
    cases micros
    cases offset
    rfl
  exact ⟨_, same ▸ later⟩

end Time.Moment

namespace Schedule.Task

open Deskwork.Time

variable {t : Task} {now slot next today : Moment} {days : List Weekday}

/-! ## The next run is a slot -/

/-- The next run of a task that runs every day lies at its time. -/
theorem atTime_of_nextDaily (h : t.nextDaily now = .ok next) : next.atTime t.time = next := by
  have today : (now.atTime t.time).atTime t.time = now.atTime t.time :=
    Moment.atTime_eq_self_iff.mpr ⟨now.time_atTime t.time, rfl⟩
  unfold nextDaily at h
  rcases eq_ok_of_choice h with ⟨-, same⟩ | ⟨-, later⟩
  · cases same
    exact today
  · exact (Moment.atTime_addDays later).mpr today

/-- What is found on one of some weekdays, or a week later, comes some days after the day that the search
began with; it lies on one of the weekdays, or a week has gone by. -/
theorem exists_addDays_of_firstOn {ks : List Nat} (h : firstOn days now today ks = .ok next) :
    (∃ k, today.addDays k = .ok next) ∧
      (fallsOn next days = true ∨ today.addDays 7 = .ok next) := by
  induction ks with
  | nil =>
    have week : today.addDays 7 = .ok next := h
    exact ⟨⟨7, week⟩, .inr week⟩
  | cons k ks ih =>
    cases hcandidate : today.addDays k with
    | error f =>
      rw [firstOn, hcandidate] at h
      cases h
    | ok candidate =>
      rw [firstOn_cons hcandidate] at h
      split at h
      case isTrue falls =>
        rcases eq_ok_of_choice h with ⟨-, found⟩ | ⟨-, rest⟩
        · cases found
          exact ⟨⟨k, hcandidate⟩, .inl falls⟩
        · exact ih rest
      case isFalse => exact ih h

/-- When a week goes by without one of some weekdays that is ahead, they are today's weekday. -/
theorem fallsOn_of_week {d : Weekday} {ds : List Weekday}
    (tomorrow : now.universal < today.universal + dayMicros) (week : today.addDays 7 = .ok next)
    (h : firstOn (d :: ds) now today (List.range' 0 7) = .ok next) : fallsOn next (d :: ds) = true := by
  have small := number_lt d
  obtain ⟨k, hk⟩ : ∃ k, k = (d.number + 7 - today.day % 7) % 7 := ⟨_, rfl⟩
  have weekday : (today.day + k) % 7 = d.number := by omega
  have falls : ((d :: ds).any fun x => x.number == (today.day + k) % 7) = true := by
    simp [weekday]
  have notAhead : ¬ now.universal < today.universal + k * dayMicros := by
    intro ahead
    -- The search would have stopped at this day.
    have sooner := universal_le_of_firstOn rfl (Nat.zero_le k) falls ahead h
    rw [Moment.universal_addDays week] at sooner
    have less : k < 7 := by omega
    have pos : (0 : Int) < dayMicros := by decide
    have shorter : (k : Int) * dayMicros < 7 * dayMicros := by
      exact Int.mul_lt_mul_of_pos_right (by omega) pos
    push_cast at sooner
    omega
  have here : k = 0 := by
    by_contra later
    have more : (1 : Int) * dayMicros ≤ k * dayMicros :=
      Int.mul_le_mul_of_nonneg_right (by omega) (by decide)
    omega
  rw [fallsOn_addDays week]
  simp only [List.any_cons, Bool.or_eq_true, beq_iff_eq]
  left
  omega

/-- The next run of a task that runs on some weekdays lies at its time and on one of the weekdays. -/
theorem hasSlot_of_nextWeekly {d : Weekday} {ds : List Weekday} (weekly : t.rhythm = .weekly)
    (listed : t.days = some (d :: ds)) (offset : t.time.offset.getD 0 ≤ now.offset.getD 0)
    (h : t.nextWeekly now = .ok next) : t.HasSlot next := by
  have today : (now.atTime t.time).atTime t.time = now.atTime t.time :=
    Moment.atTime_eq_self_iff.mpr ⟨now.time_atTime t.time, rfl⟩
  unfold nextWeekly at h
  rw [listed, List.range_eq_range'] at h
  dsimp only at h
  obtain ⟨⟨k, later⟩, falls⟩ := exists_addDays_of_firstOn h
  refine ⟨(Moment.atTime_addDays later).mpr today, .inr ⟨weekly, _, listed, ?_⟩⟩
  rcases falls with falls | week
  · exact falls
  · exact fallsOn_of_week (Moment.universal_atTime offset) week h

/-- A task has slots: it runs every day, or on some weekdays. -/
def Recurring (t : Task) : Prop :=
  t.rhythm = .daily ∨ t.rhythm = .weekly ∧ ∃ d ds, t.days = some (d :: ds)

/-- The next run of a task that has slots is one of them. -/
theorem hasSlot_of_nextRunAt (enabled : t.enabled = true) (recurring : t.Recurring)
    (offset : t.time.offset.getD 0 ≤ now.offset.getD 0) (h : t.nextRunAt now = .ok (some next)) :
    t.HasSlot next := by
  have plan := nextRunAt_eq_some enabled h
  rcases recurring with daily | ⟨weekly, d, ds, listed⟩
  · rw [daily] at plan
    exact ⟨atTime_of_nextDaily plan, .inl daily⟩
  · rw [weekly] at plan
    exact hasSlot_of_nextWeekly weekly listed offset plan

/-- The next run of a task that has slots is ahead of the clock. -/
theorem universal_lt_of_nextRunAt (enabled : t.enabled = true) (recurring : t.Recurring)
    (time : t.time.offset = none) (naive : now.offset = none)
    (h : t.nextRunAt now = .ok (some next)) : now.universal < next.universal := by
  have plan := nextRunAt_eq_some enabled h
  have offset : t.time.offset.getD 0 ≤ now.offset.getD 0 := by rw [time, naive]
  have within {o : Option Int} (none : o = none) : Moment.WithinDay o := by
    rintro x mem
    rw [none] at mem
    cases mem
  rcases recurring with daily | ⟨weekly, d, ds, listed⟩
  · rw [daily] at plan
    exact universal_lt_of_nextDaily offset plan
  · rw [weekly] at plan
    exact universal_lt_of_nextWeekly listed (within naive) (within time) plan

/-! ## The soonest slot -/

/-- The next run of a task that has slots is the soonest of them. -/
theorem soonest_of_nextRunAt (enabled : t.enabled = true) (recurring : t.Recurring)
    (time : t.time.offset = none) (naive : now.offset = none)
    (h : t.nextRunAt now = .ok (some next)) : Moment.SoonestAfter t.HasSlot now next := by
  have same : t.time.offset.getD 0 = now.offset.getD 0 := by rw [time, naive]
  have suits := hasSlot_of_nextRunAt enabled recurring same.le h
  have ahead := universal_lt_of_nextRunAt enabled recurring time naive h
  have offset : next.offset = none := (congrArg Moment.offset suits.time).symm.trans time
  refine ⟨Moment.before_eq_true_iff.mpr ⟨by rw [naive, offset], ahead⟩, suits, ?_⟩
  intro slot serves later
  obtain ⟨comparable, after⟩ := Moment.before_eq_true_iff.mp later
  have notCome : ¬ slot.NotAfter now := by
    intro come
    have before := (Moment.notAfter_iff.mp come).2
    omega
  obtain ⟨next', first, sameOffset, least⟩ :=
    universal_le_of_nextRunAt enabled serves same.ge notCome h
  obtain rfl := Option.some.inj first
  exact Moment.notAfter_iff.mpr ⟨sameOffset, least⟩

/-- A task has the same slots a week later. -/
theorem hasSlot_addWeek {earlier : Moment} (week : earlier.addDays 7 = .ok slot)
    (h : t.HasSlot slot) : t.HasSlot earlier := by
  refine ⟨(Moment.atTime_addDays week).mp h.time, ?_⟩
  rcases h.day with daily | ⟨weekly, days, listed, falls⟩
  · exact .inl daily
  · refine .inr ⟨weekly, days, listed, ?_⟩
    rw [fallsOn_addDays week, Nat.add_mod_right] at falls
    exact falls

/-- The soonest slot comes within a week. -/
theorem micros_le_of_soonest (naive : now.offset = none)
    (h : Moment.SoonestAfter t.HasSlot now next) : next.micros ≤ now.micros + 7 * dayMicros := by
  by_contra far
  obtain ⟨earlier, week⟩ : ∃ earlier : Moment, earlier.addDays 7 = .ok next :=
    Moment.exists_addDays_eq (by omega)
  have micros := Moment.micros_addDays week
  have offset := (Moment.shift_eq_ok week).2
  have nextOffset := Moment.offset_of_before naive h.ahead
  have earlierOffset : earlier.offset = none := offset.symm.trans nextOffset
  -- The slot a week before would have come sooner.
  have ahead : now.before earlier = .ok true := by
    refine Moment.before_eq_true_iff.mpr ⟨by rw [naive, earlierOffset], ?_⟩
    simp only [Moment.universal, naive, earlierOffset]
    omega
  have sooner := (Moment.notAfter_iff.mp (h.least earlier (hasSlot_addWeek week h.suits) ahead)).2
  simp only [Moment.universal, nextOffset, earlierOffset] at sooner
  have pos : 0 < dayMicros := by decide
  omega

/-- A week after the clock comes no sooner than the soonest slot, as long as the calendar does not end. -/
theorem exists_week_of_soonest (naive : now.offset = none)
    (room : (now.day + 8) * dayMicros ≤ calendarMicros)
    (h : Moment.SoonestAfter t.HasSlot now next) :
    ∃ week, now.addDays 7 = .ok week ∧ next.NotAfter week := by
  have inDay := now.time.inDay
  have made := now.day_mul_add_time
  rw [Nat.add_mul] at room
  obtain ⟨week, later⟩ : ∃ week, now.addDays 7 = .ok week :=
    Moment.exists_addDays_iff.mpr (by omega)
  have within := micros_le_of_soonest naive h
  have micros := Moment.micros_addDays later
  have offset := (Moment.shift_eq_ok later).2.trans naive
  have nextOffset := Moment.offset_of_before naive h.ahead
  refine ⟨week, later, Moment.notAfter_iff.mpr ⟨by rw [offset, nextOffset], ?_⟩⟩
  simp only [Moment.universal, offset, nextOffset]
  omega

/-- As long as the calendar does not end within a week, the next run of a task that has slots can be
told. -/
theorem exists_nextRunAt (enabled : t.enabled = true) (recurring : t.Recurring)
    (time : t.time.offset = none) (naive : now.offset = none)
    (early : (now.day + 8) * dayMicros ≤ calendarMicros) :
    ∃ next, t.nextRunAt now = .ok (some next) := by
  have comparable : now.Comparable (now.atTime t.time) :=
    congrArg Option.isSome (naive.trans time.symm)
  have inDay := t.time.inDay
  have micros : (now.atTime t.time).micros = now.day * dayMicros + t.time.micros := rfl
  rw [Nat.add_mul] at early
  have told : t.Foreseeable now := by
    intro _
    rcases recurring with daily | ⟨weekly, d, ds, listed⟩
    · rw [daily]
      exact ⟨comparable, .inr (by omega)⟩
    · rw [weekly]
      intro _ _ _
      exact ⟨comparable, 7, le_rfl, by omega, .inl rfl⟩
  obtain ⟨o, planned⟩ := exists_nextRunAt_iff.mpr told
  obtain ⟨next, rfl⟩ := exists_some_of_nextRunAt enabled planned
  exact ⟨next, planned⟩

/-! ## Slots by their times and weekdays -/

/-- A moment without an offset is at a time without an offset when its clock shows this time. -/
theorem atTime_iff (time : t.time.offset = none) (naive : slot.offset = none) :
    slot.atTime t.time = slot ↔ slot.time = t.time := by
  rw [Moment.atTime_eq_self_iff, naive, time]
  obtain ⟨_, _, _, _, _, ⟨_, _, _⟩, _⟩ := t
  cases time
  simp [Moment.time]

/-- The slots of a task that runs every day are the moments at its time. -/
theorem hasSlot_iff_of_daily (daily : t.rhythm = .daily) (time : t.time.offset = none)
    (naive : slot.offset = none) : t.HasSlot slot ↔ slot.time = t.time := by
  rw [← atTime_iff time naive]
  exact ⟨fun serves => serves.time, fun at_ => ⟨at_, .inl daily⟩⟩

/-- The slots of a task that runs on some weekdays are the moments at its time on these weekdays. -/
theorem hasSlot_iff_of_weekly (weekly : t.rhythm = .weekly) (listed : t.days = some days)
    (time : t.time.offset = none) (naive : slot.offset = none) :
    t.HasSlot slot ↔ slot.time = t.time ∧ ∃ d ∈ days, d.number = slot.weekday := by
  have falls : fallsOn slot days = true ↔ ∃ d ∈ days, d.number = slot.weekday := by
    simp [fallsOn]
  rw [← atTime_iff time naive, ← falls]
  constructor
  · rintro ⟨at_, daily | ⟨-, days', listed', on⟩⟩
    · rw [daily] at weekly
      cases weekly
    · obtain rfl := Option.some.inj (listed.symm.trans listed')
      exact ⟨at_, on⟩
  · rintro ⟨at_, on⟩
    exact ⟨at_, .inr ⟨weekly, days, listed, on⟩⟩

/-- Up to a week before the end of the calendar, an enabled task whose time has no offset runs next in the
soonest moment after the clock that lies at its time and, if it runs on some weekdays, on one of them; this
moment comes within a week. -/
theorem nextRunAt_soonest {t : Task} {now : Moment} (enabled : t.enabled = true)
    (time : t.time.offset = none) (naive : now.offset = none)
    (early : now.day ≤ Date.toDay ⟨9999, 12, 24⟩) :
    (t.rhythm = .daily → ∃ next, t.nextRunAt now = .ok (some next)
      ∧ Moment.SoonestAfter (fun m => m.time = t.time) now next)
    ∧ ∀ days, t.rhythm = .weekly → t.days = some days → days ≠ [] →
      ∃ next week, t.nextRunAt now = .ok (some next)
        ∧ Moment.SoonestAfter (fun m => m.time = t.time ∧ ∃ d ∈ days, d.number = m.weekday) now next
        ∧ now.addDays 7 = .ok week ∧ next.NotAfter week := by
  have room : (now.day + 8) * dayMicros ≤ calendarMicros := by
    have last : Date.toDay ⟨9999, 12, 24⟩ + 8 = dayCount := by decide
    rw [calendarMicros_eq]
    exact Nat.mul_le_mul_right _ (by omega)
  have soonest (recurring : t.Recurring) :
      ∃ next, t.nextRunAt now = .ok (some next) ∧ Moment.SoonestAfter t.HasSlot now next := by
    obtain ⟨next, told⟩ := exists_nextRunAt enabled recurring time naive room
    exact ⟨next, told, soonest_of_nextRunAt enabled recurring time naive told⟩
  constructor
  · intro daily
    obtain ⟨next, told, first⟩ := soonest (.inl daily)
    refine ⟨next, told, first.congr fun m ahead => ?_⟩
    exact hasSlot_iff_of_daily daily time (Moment.offset_of_before naive ahead)
  · intro days weekly listed notEmpty
    obtain ⟨d, ds, rfl⟩ := List.exists_cons_of_ne_nil notEmpty
    obtain ⟨next, told, first⟩ := soonest (.inr ⟨weekly, d, ds, listed⟩)
    obtain ⟨week, later, within⟩ := exists_week_of_soonest naive room first
    refine ⟨next, week, told, first.congr fun m ahead => ?_, later, within⟩
    exact hasSlot_iff_of_weekly weekly listed time (Moment.offset_of_before naive ahead)

/-- A task that runs at half past two, every day. -/
def daybreak : Task :=
  { WorkerPool.halfHourly "t1" "a" with rhythm := .daily, time := ⟨9000000000, none, by decide⟩ }

/-- A task that runs at half past two, on Mondays and on Thursdays. -/
def biweekly : Task :=
  { daybreak with rhythm := .weekly, days := some [.thursday, .monday, .thursday] }

/-- Half past two on a leap day, which is a Thursday. -/
def leapDay : Moment := ⟨Date.toDay ⟨2024, 2, 29⟩ * dayMicros + 9000000000, none, by decide⟩

/-- On a leap day, just when both tasks run, one of them runs next on the day after, and the other one
on the Monday that follows. -/
theorem nextRunAt_soonest_leapDay :
    (daybreak.enabled = true ∧ daybreak.time.offset = none ∧ leapDay.offset = none
        ∧ leapDay.day ≤ Date.toDay ⟨9999, 12, 24⟩)
      ∧ (∃ next, daybreak.nextRunAt leapDay = .ok (some next) ∧ next.date = ⟨2024, 3, 1⟩
        ∧ Moment.SoonestAfter (fun m => m.time = daybreak.time) leapDay next)
      ∧ ∃ next week, biweekly.nextRunAt leapDay = .ok (some next) ∧ next.date = ⟨2024, 3, 4⟩
        ∧ Moment.SoonestAfter (fun m => m.time = biweekly.time
          ∧ ∃ d ∈ [Weekday.thursday, .monday, .thursday], d.number = m.weekday) leapDay next
        ∧ leapDay.addDays 7 = .ok week ∧ next.NotAfter week := by
  have early : leapDay.day ≤ Date.toDay ⟨9999, 12, 24⟩ := by decide
  -- The dates are those of the slots that are computed.
  have date {t : Task} {d : Date} {next : Moment} (told : t.nextRunAt leapDay = .ok (some next))
      (known : (t.nextRunAt leapDay).toOption.join.map Moment.date = some d) : next.date = d := by
    rw [told] at known
    exact Option.some.inj known
  refine ⟨⟨rfl, rfl, rfl, early⟩, ?_, ?_⟩
  · obtain ⟨next, told, soonest⟩ := (nextRunAt_soonest (t := daybreak) rfl rfl rfl early).1 rfl
    exact ⟨next, told, date told (by decide), soonest⟩
  · obtain ⟨next, week, told, soonest, later, within⟩ :=
      (nextRunAt_soonest (t := biweekly) rfl rfl rfl early).2 _ rfl rfl (by decide)
    exact ⟨next, week, told, date told (by decide), soonest, later, within⟩

end Schedule.Task

end Deskwork
