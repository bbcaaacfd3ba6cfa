/-
# Slots

When a task runs next is computed from a reading of the clock. The slot of a task that runs every day
or on some weekdays lies behind this reading (`universal_lt_of_nextDaily`,
`universal_lt_of_nextWeekly`), and the slot of a task that runs some minutes after its last run lies
these minutes behind it (`universal_of_nextInterval`).
-/
import Deskwork.Schedule.Timing
import Mathlib.Algebra.Order.Group.Unbundled.Int

namespace Deskwork

namespace Time.Moment

variable {a b c m n : Moment}

/-! ## The order of moments -/

/-- A moment does not come after another one. -/
def NotAfter (m n : Moment) : Prop := m.notAfter n = .ok true

instance (m n : Moment) : Decidable (m.NotAfter n) := inferInstanceAs (Decidable (_ = _))

theorem notAfter_iff :
    m.NotAfter n ↔ m.offset.isSome = n.offset.isSome ∧ m.universal ≤ n.universal := by
  unfold NotAfter notAfter since?
  by_cases h : m.offset.isSome = n.offset.isSome
  · simp [h]
  · simp [h]

theorem before_eq_true_iff :
    m.before n = .ok true ↔ m.offset.isSome = n.offset.isSome ∧ m.universal < n.universal := by
  unfold before since?
  by_cases h : m.offset.isSome = n.offset.isSome
  · simp [h]
  · simp [h]

theorem NotAfter.refl (m : Moment) : m.NotAfter m := notAfter_iff.mpr ⟨rfl, Int.le_refl _⟩

theorem NotAfter.trans (h : a.NotAfter b) (h' : b.NotAfter c) : a.NotAfter c := by
  obtain ⟨hsame, hle⟩ := notAfter_iff.mp h
  obtain ⟨hsame', hle'⟩ := notAfter_iff.mp h'
  exact notAfter_iff.mpr ⟨hsame.trans hsame', Int.le_trans hle hle'⟩

instance : Trans NotAfter NotAfter NotAfter := ⟨NotAfter.trans⟩

theorem since_eq (h : m.offset.isSome = n.offset.isSome) :
    m.since n = .ok (m.universal - n.universal) := by
  unfold since since?
  rw [h]
  simp

/-! ## Moved moments -/

theorem shift_eq_ok {span : Int} (h : m.shift span = .ok n) :
    (n.micros : Int) = m.micros + span ∧ n.offset = m.offset := by
  unfold shift ofMicros? at h
  split at h
  next hin =>
    cases h
    exact ⟨Int.toNat_of_nonneg hin.1, rfl⟩
  next => cases h

theorem universal_shift {span : Int} (h : m.shift span = .ok n) :
    n.universal = m.universal + span := by
  obtain ⟨hmicros, hoffset⟩ := shift_eq_ok h
  unfold universal
  rw [hmicros, hoffset]
  omega

theorem universal_addDays {days : Nat} (h : m.addDays days = .ok n) :
    n.universal = m.universal + days * dayMicros := by
  rw [universal_shift h]
  push_cast
  rfl

/-! ## Times of day -/

/-- The offset of a clock, if it has one, is less than a day. -/
def WithinDay (offset : Option Int) : Prop :=
  ∀ o ∈ offset, -(dayMicros : Int) < o ∧ o < dayMicros

/-- A moment at another time of its day, in microseconds. -/
theorem micros_atTime (m : Moment) (t : TimeOfDay) :
    m.micros < (m.atTime t).micros + dayMicros := by
  have hday : m.micros % dayMicros < dayMicros := Nat.mod_lt _ (by decide)
  have hsplit := Nat.div_add_mod m.micros dayMicros
  change m.micros < m.micros / dayMicros * dayMicros + t.micros + dayMicros
  rw [Nat.mul_comm] at hsplit
  omega

/-- When a time is not ahead of the clock of a moment, the moment lies less than a day after this time
of its day. -/
theorem universal_atTime {t : TimeOfDay} (h : t.offset.getD 0 ≤ m.offset.getD 0) :
    m.universal < (m.atTime t).universal + dayMicros := by
  have hlt := m.micros_atTime t
  have hoffset : (m.atTime t).offset = t.offset := rfl
  unfold universal
  rw [hoffset]
  omega

/-- Whatever the offsets are, a moment lies less than three days after a time of its day. -/
theorem universal_atTime_of_withinDay {t : TimeOfDay} (hm : WithinDay m.offset)
    (ht : WithinDay t.offset) : m.universal < (m.atTime t).universal + 3 * dayMicros := by
  have hlt := m.micros_atTime t
  have hpos : (0 : Int) < dayMicros := by decide
  have hbound {o : Option Int} (h : WithinDay o) :
      -(dayMicros : Int) < o.getD 0 ∧ o.getD 0 < dayMicros := by
    cases o with
    | none => exact ⟨by simpa using hpos, hpos⟩
    | some x => exact h x rfl
  obtain ⟨hlow, -⟩ := hbound hm
  obtain ⟨-, hhigh⟩ := hbound ht
  have hoffset : (m.atTime t).offset = t.offset := rfl
  unfold universal
  rw [hoffset]
  omega

end Time.Moment

/-- A span of some minutes has these minutes. -/
theorem Time.eq_of_spanOfMinutes {n span : Int} (h : Time.spanOfMinutes n = .ok span) :
    span = n * 60000000 := by
  unfold Time.spanOfMinutes Time.checkSpan at h
  dsimp only at h
  split at h
  · cases h
  · split at h <;> cases h
    rfl

namespace Schedule.Task

open Deskwork.Time

variable {t t' : Task} {now slot : Moment}

/-! ## The next run -/

/-- What the next run of a task is computed from: what it was taken on with, and its last run. -/
def basis (t : Task) : Task := { t with nextRun := none, lastNotified := none }

theorem nextRunAt_congr (h : t'.basis = t.basis) (now : Moment) :
    t'.nextRunAt now = t.nextRunAt now := by
  obtain ⟨_, _, _, _, _, _, _, _, _, _, _, _, _, _, _, _⟩ := t
  obtain ⟨_, _, _, _, _, _, _, _, _, _, _, _, _, _, _, _⟩ := t'
  cases h
  rfl

/-- A choice that is made came out one way or the other. -/
theorem eq_ok_of_choice {ask : Except Time.Fault Bool} {yes no : Except Time.Fault Moment}
    (h : (do if ← ask then yes else no) = .ok slot) :
    ask = .ok true ∧ yes = .ok slot ∨ ask = .ok false ∧ no = .ok slot := by
  cases ask with
  | error f => cases h
  | ok b =>
    cases b with
    | true => exact .inl ⟨rfl, h⟩
    | false => exact .inr ⟨rfl, h⟩

/-- A task that runs every day runs next after the reading that its next run was computed from, when
its time is not ahead of the clock. -/
theorem universal_lt_of_nextDaily (hoffset : t.time.offset.getD 0 ≤ now.offset.getD 0)
    (h : t.nextDaily now = .ok slot) : now.universal < slot.universal := by
  unfold nextDaily at h
  rcases eq_ok_of_choice h with ⟨hahead, htoday⟩ | ⟨-, htomorrow⟩
  · cases htoday
    exact (Moment.before_eq_true_iff.mp hahead).2
  · rw [Moment.universal_addDays htomorrow]
    have htoday := Moment.universal_atTime hoffset
    omega

/-- What is found on one of some weekdays, or a week later, lies after `now`. -/
theorem universal_lt_of_firstOn {days : List Weekday} {today : Moment} {offsets : List Nat}
    (hweek : now.universal < today.universal + 7 * dayMicros)
    (h : firstOn days now today offsets = .ok slot) : now.universal < slot.universal := by
  induction offsets with
  | nil =>
    rw [Moment.universal_addDays h]
    exact hweek
  | cons offset offsets ih =>
    unfold firstOn at h
    cases hcandidate : today.addDays offset with
    | error f =>
      rw [hcandidate] at h
      cases h
    | ok candidate =>
      rw [hcandidate] at h
      change (if fallsOn candidate days then _ else _) = _ at h
      split at h
      · rcases eq_ok_of_choice h with ⟨hahead, hfound⟩ | ⟨-, hlater⟩
        · cases hfound
          exact (Moment.before_eq_true_iff.mp hahead).2
        · exact ih hlater
      · exact ih h

/-- A task that runs on some weekdays runs next after the reading that its next run was computed
from. -/
theorem universal_lt_of_nextWeekly {d : Weekday} {ds : List Weekday} (hdays : t.days = some (d :: ds))
    (hnow : Moment.WithinDay now.offset) (htime : Moment.WithinDay t.time.offset)
    (h : t.nextWeekly now = .ok slot) : now.universal < slot.universal := by
  unfold nextWeekly at h
  rw [hdays] at h
  refine universal_lt_of_firstOn ?_ h
  have htoday := Moment.universal_atTime_of_withinDay hnow htime
  have hpos : (0 : Int) < dayMicros := by decide
  omega

/-- A task that runs some minutes after its last run runs next when these minutes have passed. -/
theorem universal_of_nextInterval {n : Int} {last : Moment} (hn : t.interval = some n) (hpos : 0 < n)
    (hlast : t.lastRun = some last) (h : t.nextInterval now = .ok slot) :
    slot.universal = last.universal + n * 60000000 := by
  unfold nextInterval at h
  rw [hn, hlast] at h
  dsimp only at h
  rw [if_neg (by omega)] at h
  cases hspan : spanOfMinutes n with
  | error f =>
    rw [hspan] at h
    cases h
  | ok span =>
    rw [hspan] at h
    have hshift : last.shift span = .ok slot := h
    rw [Moment.universal_shift hshift, eq_of_spanOfMinutes hspan]

/-! ## Due tasks -/

/-- The next run of a task that is due has come. -/
theorem exists_slot_of_isDue (h : t.isDue now = .ok true) :
    t.enabled = true ∧ ∃ slot, t.nextRun = some slot ∧ slot.NotAfter now := by
  unfold isDue at h
  split at h
  next henabled =>
    cases hnext : t.nextRun with
    | none =>
      rw [hnext] at h
      cases h
    | some slot =>
      rw [hnext] at h
      dsimp only at h
      refine ⟨henabled, slot, rfl, ?_⟩
      unfold Moment.NotAfter
      cases hcome : slot.notAfter now with
      | error f =>
        rw [hcome] at h
        cases h
      | ok b =>
        rw [hcome] at h
        cases h
        rfl
  next => cases h

/-- The next run of an enabled task is that of its rhythm. -/
theorem nextRunAt_eq_some (henabled : t.enabled = true) (h : t.nextRunAt now = .ok (some slot)) :
    match t.rhythm with
    | .daily => t.nextDaily now = .ok slot
    | .weekly => t.nextWeekly now = .ok slot
    | .interval => t.nextInterval now = .ok slot := by
  have hplain {x : Except Time.Fault Moment}
      (hx : (x.map some).mapError Fault.time = .ok (some slot)) : x = .ok slot := by
    cases x with
    | error f => cases hx
    | ok m =>
      cases hx
      rfl
  unfold nextRunAt at h
  rw [if_pos henabled] at h
  cases hrhythm : t.rhythm with
  | daily =>
    rw [hrhythm] at h
    exact hplain h
  | weekly =>
    rw [hrhythm] at h
    exact hplain h
  | interval =>
    rw [hrhythm] at h
    exact hplain h

end Schedule.Task

end Deskwork
