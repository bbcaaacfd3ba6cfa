/-
# Foresight

What it takes to tell when a task runs next, and whether a notification about it comes too early. Two
things stand in the way: moments with an offset from universal time cannot be compared with moments
without one, and the calendar ends. The main statements say exactly when the next run can be told
(`Task.exists_nextRunAt_iff`) and when it can be told whether a run is announced
(`Task.exists_wantsNotice_iff`).
-/
import Deskwork.Proofs.Schedule.Slots
import Deskwork.Schedule.Execution

namespace Deskwork

namespace Time

/-- An answer is not a fault. -/
theorem exists_ok_map_iff {α β ε ε' : Type} {f : α → β} {g : ε → ε'} {x : Except ε α} :
    (∃ b, (x.map f).mapError g = .ok b) ↔ ∃ a, x = .ok a := by
  cases x with
  | error e =>
    constructor
    · rintro ⟨b, ⟨⟩⟩
    · rintro ⟨a, ⟨⟩⟩
  | ok a => exact ⟨fun _ => ⟨a, rfl⟩, fun _ => ⟨f a, rfl⟩⟩

namespace Moment

variable {m n : Moment}

/-! ## Moments that can be had -/

/-- Two moments can be compared: both have an offset from universal time, or neither has one. -/
def Comparable (m n : Moment) : Prop := m.offset.isSome = n.offset.isSome

instance (m n : Moment) : Decidable (m.Comparable n) := inferInstanceAs (Decidable (_ = _))

theorem since?_eq (m n : Moment) :
    m.since? n = if m.Comparable n then some (m.universal - n.universal) else none := by
  unfold since? Comparable
  by_cases h : m.offset.isSome = n.offset.isSome <;> simp [h]

theorem exists_before_iff : (∃ b, m.before n = .ok b) ↔ m.Comparable n := by
  unfold before
  rw [since?_eq]
  by_cases h : m.Comparable n <;> simp [h]

theorem exists_since_iff : (∃ d, m.since n = .ok d) ↔ m.Comparable n := by
  unfold since
  rw [since?_eq]
  by_cases h : m.Comparable n <;> simp [h]

/-- A moment can be moved on as long as the calendar does not end. -/
theorem exists_shift_iff {span : Int} (hspan : 0 ≤ span) :
    (∃ n, m.shift span = .ok n) ↔ (m.micros : Int) + span < calendarMicros := by
  unfold shift ofMicros?
  by_cases h : (m.micros : Int) + span < calendarMicros
  · have hin : 0 ≤ (m.micros : Int) + span ∧ ((m.micros : Int) + span).toNat < calendarMicros := by
      omega
    simp [hin, h]
  · have hout : ¬ (0 ≤ (m.micros : Int) + span ∧
        ((m.micros : Int) + span).toNat < calendarMicros) := by omega
    simp [hout, h]

theorem exists_addDays_iff {days : Nat} :
    (∃ n, m.addDays days = .ok n) ↔ m.micros + days * dayMicros < calendarMicros := by
  unfold addDays
  rw [exists_shift_iff (Int.natCast_nonneg _)]
  norm_cast

/-- Some days later, the weekday is as many days later. -/
theorem weekday_addDays {days : Nat} (h : m.addDays days = .ok n) :
    n.weekday = (m.day + days) % 7 := by
  obtain ⟨hmicros, -⟩ := shift_eq_ok h
  have hpos : 0 < dayMicros := by decide
  have hn : n.micros = m.micros + days * dayMicros := by
    rw [← Int.natCast_add] at hmicros
    exact Int.ofNat_inj.mp hmicros
  unfold weekday weekdayOfDay day
  rw [hn, Nat.add_mul_div_right _ _ hpos]

end Moment

/-- A span of a positive number of minutes that ends within the calendar is not too long. -/
theorem spanOfMinutes_of_lt {n : Int} (hpos : 0 < n) (h : n * 60000000 < calendarMicros) :
    spanOfMinutes n = .ok (n * 60000000) := by
  have hdays : (n * 60000000).fdiv dayMicros = n * 60000000 / dayMicros :=
    Int.fdiv_eq_ediv_of_nonneg _ (by decide)
  have hlow : 0 ≤ n * 60000000 / (dayMicros : Int) := Int.ediv_nonneg (by omega) (by decide)
  have hhigh : n * 60000000 / (dayMicros : Int) ≤ 3652059 := by
    unfold calendarMicros at h
    unfold dayMicros
    omega
  unfold spanOfMinutes checkSpan
  dsimp only
  simp only [hdays, Bool.or_eq_true, decide_eq_true_eq]
  rw [if_neg (by omega), if_neg (by omega)]

/-- The minutes of a span lie within these bounds. -/
def IsSpan (n : Int) : Prop := -1439999998560 ≤ n ∧ n < 1440000000000

instance (n : Int) : Decidable (IsSpan n) := inferInstanceAs (Decidable (_ ∧ _))

theorem exists_spanOfMinutes_iff {n : Int} : (∃ span, spanOfMinutes n = .ok span) ↔ IsSpan n := by
  have hdays : (n * 60000000).fdiv dayMicros = n * 60000000 / dayMicros :=
    Int.fdiv_eq_ediv_of_nonneg _ (by decide)
  have hbounds : IsSpan n ↔ -999999999 ≤ n * 60000000 / (dayMicros : Int) ∧
      n * 60000000 / (dayMicros : Int) ≤ 999999999 := by
    unfold IsSpan dayMicros
    omega
  unfold spanOfMinutes checkSpan
  dsimp only
  simp only [hdays, hbounds, Bool.or_eq_true, decide_eq_true_eq]
  generalize n * 60000000 / (dayMicros : Int) = days
  split
  next h => exact ⟨fun ⟨span, hspan⟩ => (nomatch hspan), fun hin => by omega⟩
  next h =>
    split
    next h' => exact ⟨fun ⟨span, hspan⟩ => (nomatch hspan), fun hin => by omega⟩
    next h' => exact ⟨fun _ => by omega, fun _ => ⟨_, rfl⟩⟩

end Time

namespace Schedule.Task

open Deskwork.Time

variable {t : Task} {now today : Moment} {d : Weekday} {days : List Weekday}

/-! ## The next run -/

/-- There is a next slot for a task that runs every day, whose time comes at a moment of this day. -/
def HasDaily (now today : Moment) : Prop :=
  now.Comparable today ∧
    (now.universal < today.universal ∨ today.micros + dayMicros < calendarMicros)

/-- There is a next slot for a task that runs on some weekdays, within a week. -/
def HasWeekly (days : List Weekday) (now today : Moment) : Prop :=
  now.Comparable today ∧ ∃ k ≤ 7, today.micros + k * dayMicros < calendarMicros ∧
    (k = 7 ∨ (days.any fun d => d.number == (today.day + k) % 7) = true ∧
      now.universal < today.universal + k * dayMicros)

/-- It can be told when a task runs next. -/
def Foreseeable (t : Task) (now : Moment) : Prop :=
  t.enabled = true →
    match t.rhythm with
    | .daily => HasDaily now (now.atTime t.time)
    | .weekly => ∀ d ds, t.days = some (d :: ds) → HasWeekly (d :: ds) now (now.atTime t.time)
    | .interval => ∀ n last, t.interval = some n → 0 < n → t.lastRun = some last →
        last.micros + n * 60000000 < calendarMicros

/-- A choice that can be made is made. -/
theorem choice_ok {yes no : Except Time.Fault Moment} (b : Bool) :
    (do if ← (.ok b : Except Time.Fault Bool) then yes else no) = if b then yes else no := rfl

theorem exists_nextDaily_iff :
    (∃ slot, t.nextDaily now = .ok slot) ↔ HasDaily now (now.atTime t.time) := by
  unfold nextDaily HasDaily
  dsimp only
  generalize now.atTime t.time = today
  have hcomparable := Moment.exists_before_iff (m := now) (n := today)
  have hbefore := Moment.before_eq_true_iff (m := now) (n := today)
  cases h : now.before today with
  | error f =>
    rw [h] at hcomparable
    have hnot : ¬ now.Comparable today := fun hc => nomatch hcomparable.mpr hc
    exact ⟨fun ⟨slot, hslot⟩ => (nomatch hslot), fun hdaily => absurd hdaily.1 hnot⟩
  | ok b =>
    have hc : now.Comparable today := hcomparable.mp ⟨b, h⟩
    rw [h] at hbefore
    rw [choice_ok]
    cases b with
    | true => exact ⟨fun _ => ⟨hc, .inl (hbefore.mp rfl).2⟩, fun _ => ⟨today, rfl⟩⟩
    | false =>
      have hnot : ¬ now.universal < today.universal := fun hlt => nomatch hbefore.mpr ⟨hc, hlt⟩
      simp only [Bool.false_eq_true, if_false]
      rw [Moment.exists_addDays_iff, Nat.one_mul]
      exact ⟨fun hlt => ⟨hc, .inr hlt⟩, fun hdaily => hdaily.2.resolve_left hnot⟩

/-- The first of some days, when it is there, is the one that is found, unless it is passed over. -/
theorem firstOn_cons {candidate : Moment} {k : Nat} {ks : List Nat}
    (h : today.addDays k = .ok candidate) :
    firstOn days now today (k :: ks) =
      if fallsOn candidate days then
        (do if ← now.before candidate then return candidate else firstOn days now today ks)
      else firstOn days now today ks := by
  rw [firstOn, h]
  rfl

theorem fallsOn_addDays {candidate : Moment} {k : Nat} (h : today.addDays k = .ok candidate) :
    fallsOn candidate days = days.any fun d => d.number == (today.day + k) % 7 := by
  unfold fallsOn
  rw [Moment.weekday_addDays h]

theorem comparable_addDays {candidate : Moment} {k : Nat} (h : today.addDays k = .ok candidate) :
    now.Comparable candidate ↔ now.Comparable today := by
  obtain ⟨-, hoffset⟩ := Moment.shift_eq_ok h
  unfold Moment.Comparable
  rw [hoffset]

/-- The slot some days ahead is found: it lies in the calendar, and it is ahead of the clock on one of
the weekdays, or a week has gone by. -/
def IsFound (days : List Weekday) (now today : Moment) (k : Nat) : Prop :=
  today.micros + k * dayMicros < calendarMicros ∧
    (k = 7 ∨ (days.any fun d => d.number == (today.day + k) % 7) = true ∧
      now.universal < today.universal + k * dayMicros)

/-- From a day on, the slot of this day is found, or a later one. -/
theorem exists_isFound_iff {j : Nat} (hj : j < 7) :
    (∃ k, j ≤ k ∧ k ≤ 7 ∧ IsFound days now today k) ↔
      IsFound days now today j ∨ ∃ k, j + 1 ≤ k ∧ k ≤ 7 ∧ IsFound days now today k := by
  constructor
  · rintro ⟨k, hjk, hk7, hk⟩
    rcases Nat.eq_or_lt_of_le hjk with rfl | hlt
    · exact .inl hk
    · exact .inr ⟨k, hlt, hk7, hk⟩
  · rintro (hk | ⟨k, hjk, hk⟩)
    · exact ⟨j, le_rfl, hj.le, hk⟩
    · exact ⟨k, (Nat.lt_of_succ_le hjk).le, hk⟩

/-- Of the days that are left, the first one is found, or one of the others, as long as the calendar
does not end. -/
theorem exists_firstOn_cons_iff (hc : now.Comparable today) {j : Nat} (hj : j < 7) {ks : List Nat} :
    (∃ slot, firstOn days now today (j :: ks) = .ok slot) ↔
      today.micros + j * dayMicros < calendarMicros ∧
        (IsFound days now today j ∨ ∃ slot, firstOn days now today ks = .ok slot) := by
  have hday : (∃ m, today.addDays j = .ok m) ↔ _ := Moment.exists_addDays_iff
  cases hcandidate : today.addDays j with
  | error f =>
    rw [hcandidate] at hday
    rw [firstOn, hcandidate]
    exact ⟨fun ⟨slot, hslot⟩ => (nomatch hslot), fun ⟨hin, _⟩ => nomatch hday.mpr hin⟩
  | ok candidate =>
    have hin := hday.mp ⟨candidate, hcandidate⟩
    have hcomparable := (comparable_addDays hcandidate).mpr hc
    have hbefore := Moment.before_eq_true_iff (m := now) (n := candidate)
    rw [Moment.universal_addDays hcandidate] at hbefore
    rw [firstOn_cons hcandidate, fallsOn_addDays hcandidate]
    -- A day that is passed over leaves it to the others.
    have hskip (hnot : ¬ ((days.any fun d => d.number == (today.day + j) % 7) = true ∧
        now.universal < today.universal + j * dayMicros)) :
        (∃ slot, firstOn days now today ks = .ok slot) ↔
          today.micros + j * dayMicros < calendarMicros ∧
            (IsFound days now today j ∨ ∃ slot, firstOn days now today ks = .ok slot) := by
      refine ⟨fun h => ⟨hin, .inr h⟩, fun h => h.2.resolve_left fun hfound => ?_⟩
      exact hfound.2.elim (fun h7 => by omega) hnot
    by_cases hfalls : (days.any fun d => d.number == (today.day + j) % 7) = true
    · rw [if_pos hfalls]
      obtain ⟨b, hb⟩ := Moment.exists_before_iff.mpr hcomparable
      rw [hb] at hbefore ⊢
      rw [choice_ok]
      cases b with
      | true =>
        have hahead := (hbefore.mp rfl).2
        exact ⟨fun _ => ⟨hin, .inl ⟨hin, .inr ⟨hfalls, hahead⟩⟩⟩, fun _ => ⟨candidate, rfl⟩⟩
      | false => exact hskip fun hboth => nomatch hbefore.mpr ⟨hcomparable, hboth.2⟩
    · rw [if_neg hfalls]
      exact hskip fun hboth => hfalls hboth.1

/-- When the clock can be compared with the slots, one is found as long as there is one. -/
theorem exists_firstOn_iff (hc : now.Comparable today) {j n : Nat} (hj : j + n = 7) :
    (∃ slot, firstOn days now today (List.range' j n) = .ok slot) ↔
      ∃ k, j ≤ k ∧ k ≤ 7 ∧ IsFound days now today k := by
  induction n generalizing j with
  | zero =>
    obtain rfl : j = 7 := hj
    change (∃ slot, today.addDays 7 = .ok slot) ↔ _
    rw [Moment.exists_addDays_iff]
    constructor
    · exact fun hin => ⟨7, le_rfl, le_rfl, hin, .inl rfl⟩
    · rintro ⟨k, hlow, hhigh, hin, -⟩
      obtain rfl : k = 7 := by omega
      exact hin
  | succ n ih =>
    have hlt : j < 7 := by omega
    rw [List.range'_succ, exists_firstOn_cons_iff hc hlt, ih (by omega), exists_isFound_iff hlt,
      and_iff_right_of_imp]
    -- When a day is reached, the calendar has not ended before it.
    rintro (hfound | ⟨k, hjk, -, hin, -⟩)
    · exact hfound.1
    · have hle : j * dayMicros ≤ k * dayMicros := Nat.mul_le_mul_right _ (by omega)
      omega

/-- When the clock cannot be compared with the slots, the weekdays are passed over at best. -/
theorem not_fallsOn_of_firstOn (hc : ¬ now.Comparable today) {slot : Moment} {ks : List Nat}
    (h : firstOn days now today ks = .ok slot) :
    ∀ k ∈ ks, (days.any fun d => d.number == (today.day + k) % 7) = false := by
  induction ks with
  | nil => exact fun k hk => nomatch hk
  | cons k ks ih =>
    cases hcandidate : today.addDays k with
    | error f =>
      rw [firstOn, hcandidate] at h
      cases h
    | ok candidate =>
      rw [firstOn_cons hcandidate, fallsOn_addDays hcandidate] at h
      split at h
      next hfalls =>
        have hcomparable : now.Comparable candidate :=
          Moment.exists_before_iff.mp ((eq_ok_of_choice h).elim (fun hyes => ⟨_, hyes.1⟩)
            fun hno => ⟨_, hno.1⟩)
        exact absurd ((comparable_addDays hcandidate).mp hcomparable) hc
      next hfalls =>
        exact List.forall_mem_cons.mpr ⟨Bool.not_eq_true _ ▸ hfalls, ih h⟩

theorem number_lt (d : Weekday) : d.number < 7 := by
  cases d <;> decide

theorem exists_nextWeekly_iff (hdays : t.days = some (d :: days)) :
    (∃ slot, t.nextWeekly now = .ok slot) ↔
      HasWeekly (d :: days) now (now.atTime t.time) := by
  unfold nextWeekly HasWeekly
  rw [hdays]
  dsimp only
  generalize now.atTime t.time = today
  rw [List.range_eq_range']
  by_cases hc : now.Comparable today
  · rw [exists_firstOn_iff hc rfl]
    constructor
    · rintro ⟨k, -, hk⟩
      exact ⟨hc, k, hk⟩
    · rintro ⟨-, k, hk⟩
      exact ⟨k, Nat.zero_le k, hk⟩
  · -- Each weekday comes within a week, so the comparison is made.
    have hnever : ¬ ∃ slot, firstOn (d :: days) now today (List.range' 0 7) = .ok slot := by
      rintro ⟨slot, hslot⟩
      have hd := number_lt d
      have hk := not_fallsOn_of_firstOn hc hslot ((d.number + 7 - today.day % 7) % 7)
        (List.mem_range'_1.mpr ⟨Nat.zero_le _, by omega⟩)
      rw [List.any_cons, Bool.or_eq_false_iff] at hk
      have hhit : d.number = (today.day + (d.number + 7 - today.day % 7) % 7) % 7 := by omega
      rw [← hhit] at hk
      simp at hk
    exact ⟨fun h => absurd h hnever, fun h => absurd h.1 hc⟩

theorem exists_nextInterval_iff :
    (∃ slot, t.nextInterval now = .ok slot) ↔
      ∀ n last, t.interval = some n → 0 < n → t.lastRun = some last →
        last.micros + n * 60000000 < calendarMicros := by
  unfold nextInterval
  cases hn : t.interval with
  | none => exact ⟨fun _ n last h => (nomatch h), fun _ => ⟨_, rfl⟩⟩
  | some n =>
    dsimp only
    by_cases hpos : n ≤ 0
    · rw [if_pos hpos]
      refine ⟨fun _ n' last h hpos' => ?_, fun _ => ⟨_, rfl⟩⟩
      cases h
      omega
    · rw [if_neg hpos]
      cases hlast : t.lastRun with
      | none => exact ⟨fun _ n' last _ _ h => (nomatch h), fun _ => ⟨_, rfl⟩⟩
      | some last =>
        have hshift : (∃ m, last.shift (n * 60000000) = .ok m) ↔ _ :=
          Moment.exists_shift_iff (by omega)
        have hspan : (∃ slot, (do last.shift (← spanOfMinutes n) : Except Time.Fault Moment) =
            .ok slot) ↔ ∃ slot, last.shift (n * 60000000) = .ok slot := by
          cases hminutes : spanOfMinutes n with
          | ok span =>
            rw [eq_of_spanOfMinutes hminutes]
            rfl
          | error f =>
            -- Minutes that are too many for a span are too many for the calendar, too.
            have hlong : ¬ n * 60000000 < calendarMicros := by
              intro hlt
              rw [spanOfMinutes_of_lt (by omega) hlt] at hminutes
              cases hminutes
            rw [hshift]
            exact ⟨fun ⟨slot, hslot⟩ => (nomatch hslot), fun hin => by omega⟩
        rw [hspan, hshift]
        constructor
        · rintro hlt n' last' h _ h'
          cases h
          cases h'
          exact hlt
        · exact fun h => h n last rfl (by omega) rfl

/-- The next run of a task can be told as long as its slots can be compared with the clock and one of
them lies within the calendar. -/
theorem exists_nextRunAt_iff : (∃ next, t.nextRunAt now = .ok next) ↔ t.Foreseeable now := by
  unfold nextRunAt Foreseeable
  by_cases henabled : t.enabled = true
  · rw [if_pos henabled]
    simp only [henabled, true_imp_iff]
    cases t.rhythm with
    | daily =>
      dsimp only
      rw [exists_ok_map_iff, exists_nextDaily_iff]
    | weekly =>
      dsimp only
      rw [exists_ok_map_iff]
      cases hdays : t.days with
      | none =>
        refine ⟨fun _ d ds h => ?_, fun _ => ⟨.never, ?_⟩⟩
        · cases h
        · unfold nextWeekly
          rw [hdays]
      | some days =>
        cases days with
        | nil =>
          refine ⟨fun _ d ds h => ?_, fun _ => ⟨.never, ?_⟩⟩
          · cases h
          · unfold nextWeekly
            rw [hdays]
        | cons d ds =>
          rw [exists_nextWeekly_iff hdays]
          constructor
          · intro h d' ds' heq
            cases heq
            exact h
          · exact fun h => h d ds rfl
    | interval =>
      dsimp only
      rw [exists_ok_map_iff, exists_nextInterval_iff]
  · rw [if_neg henabled]
    exact ⟨fun _ h => absurd h henabled, fun _ => ⟨none, rfl⟩⟩

/-! ## Notifications -/

/-- It can be told whether a notification about a task comes too early: its last notification can be
compared with the clock, and its minutes make up a span. -/
def Measurable (t : Task) (now : Moment) : Prop :=
  t.notifies = true → ∀ last, t.lastNotified = some last →
    now.Comparable last ∧ IsSpan t.notifyInterval

theorem exists_isSilent_iff :
    (∃ b, t.isSilent now = .ok b) ↔
      ∀ last, t.lastNotified = some last → now.Comparable last ∧ IsSpan t.notifyInterval := by
  unfold isSilent
  cases hlast : t.lastNotified with
  | none => exact ⟨fun _ last h => (nomatch h), fun _ => ⟨false, rfl⟩⟩
  | some last =>
    have hsince := Moment.exists_since_iff (m := now) (n := last)
    have hspan := exists_spanOfMinutes_iff (n := t.notifyInterval)
    dsimp only
    cases h : now.since last with
    | error f =>
      rw [h] at hsince
      have hnot : ¬ now.Comparable last := fun hc => nomatch hsince.mpr hc
      exact ⟨fun ⟨b, hb⟩ => (nomatch hb), fun hall => absurd (hall last rfl).1 hnot⟩
    | ok elapsed =>
      have hc := hsince.mp ⟨elapsed, h⟩
      cases h' : spanOfMinutes t.notifyInterval with
      | error f =>
        rw [h'] at hspan
        have hnot : ¬ IsSpan t.notifyInterval := fun hs => nomatch hspan.mpr hs
        exact ⟨fun ⟨b, hb⟩ => (nomatch hb), fun hall => absurd (hall last rfl).2 hnot⟩
      | ok span =>
        refine ⟨fun _ last' heq => ?_, fun _ => ⟨decide (elapsed < span), rfl⟩⟩
        cases heq
        exact ⟨hc, hspan.mp ⟨span, h'⟩⟩

/-- Whether a run is announced can be told as long as the time since the last notification can be
measured. -/
theorem exists_wantsNotice_iff {success : Bool} :
    (∃ b, t.wantsNotice success now = .ok b) ↔ t.Measurable now := by
  unfold wantsNotice Measurable
  by_cases hnotifies : t.notifies = true
  · rw [if_pos hnotifies]
    simp only [hnotifies, true_imp_iff]
    rw [← exists_isSilent_iff]
    cases t.isSilent now with
    | error f => exact ⟨fun ⟨b, hb⟩ => (nomatch hb), fun ⟨b, hb⟩ => nomatch hb⟩
    | ok silent =>
      refine ⟨fun _ => ⟨silent, rfl⟩, fun _ => ?_⟩
      cases silent with
      | true => exact ⟨false, rfl⟩
      | false => exact ⟨t.policy.asks success, rfl⟩
  · rw [if_neg hnotifies]
    exact ⟨fun _ h => absurd h hnotifies, fun _ => ⟨false, rfl⟩⟩

end Schedule.Task

end Deskwork
