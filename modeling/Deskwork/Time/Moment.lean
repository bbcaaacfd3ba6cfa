/-
# Moments

Moments of the calendar to the microsecond, with or without an offset from universal time, times of
day, and spans between moments.
-/
import Deskwork.Number.Binary64
import Deskwork.Text.Quoted
import Deskwork.Time.Calendar

namespace Deskwork.Time

open Deskwork.Number

/-! ## Units -/

/-- The microseconds of a second. -/
def secondMicros : Nat := 1000000

/-- The microseconds of a day. -/
def dayMicros : Nat := 86400000000

/-- The microseconds of the calendar. -/
def calendarMicros : Nat := 315537897600000000

/-- The calendar consists of its days. -/
theorem calendarMicros_eq : calendarMicros = dayCount * dayMicros := by decide

/-- The calendar has a beginning. -/
theorem calendarMicros_pos : 0 < calendarMicros := by decide

/-! ## Faults -/

/-- A part of a time that may lie outside its range. -/
inductive Part where
  | year (n : Nat)
  | month
  | day
  | hour
  | minute
  | second
  /-- The offset from universal time, in microseconds. -/
  | offset (micros : Int)
  deriving DecidableEq, Repr

/-- Why a moment, a time or a span cannot be had. -/
inductive Fault where
  | outOfCalendar
  /-- A span has more days than are allowed. -/
  | longSpan (days : Int)
  /-- The days of a span do not fit into a machine word. -/
  | hugeSpan
  /-- A moment with an offset is compared with one without. -/
  | mixedOrder
  /-- The span between a moment with an offset and one without is asked for. -/
  | mixedSpan
  | badText (text : String)
  | badPart (part : Part)
  | notText
  deriving DecidableEq, Repr

/-- The parts of a span in brackets, without those that are zero. -/
def spanText (micros : Int) : String :=
  let days := micros.fdiv dayMicros
  let rest := (micros.fmod dayMicros).toNat
  let part (name : String) (n : Int) : List String :=
    if n = 0 then [] else [name ++ "=" ++ toString n]
  let parts := part "days" days ++ part "seconds" (rest / secondMicros : Nat)
    ++ part "microseconds" (rest % secondMicros : Nat)
  "datetime.timedelta(" ++ (if parts.isEmpty then "0" else ", ".intercalate parts) ++ ")"

/-- The wording of a part outside its range. -/
def Part.message : Part → String
  | .year n => "year " ++ toString n ++ " is out of range"
  | .month => "month must be in 1..12"
  | .day => "day is out of range for month"
  | .hour => "hour must be in 0..23"
  | .minute => "minute must be in 0..59"
  | .second => "second must be in 0..59"
  | .offset micros =>
    "offset must be a timedelta strictly between -timedelta(hours=24) and timedelta(hours=24), not "
      ++ spanText micros ++ "."

/-- The wording of a fault. -/
def Fault.message : Fault → String
  | .outOfCalendar => "date value out of range"
  | .longSpan days => "days=" ++ toString days ++ "; must have magnitude <= 999999999"
  | .hugeSpan => "Python int too large to convert to C int"
  | .mixedOrder => "can't compare offset-naive and offset-aware datetimes"
  | .mixedSpan => "can't subtract offset-naive and offset-aware datetimes"
  | .badText s => "Invalid isoformat string: " ++ Deskwork.Text.quote s
  | .badPart part => part.message
  | .notText => "fromisoformat: argument must be str"

/-! ## Times of day -/

/-- A time of day. -/
structure TimeOfDay where
  /-- The microseconds since midnight. -/
  micros : Nat
  /-- The offset from universal time in microseconds, if there is one. -/
  offset : Option Int
  /-- A time lies within one day. -/
  inDay : micros < dayMicros
  deriving DecidableEq

namespace TimeOfDay

/-- Midnight. -/
def midnight : TimeOfDay := ⟨0, none, by decide⟩

/-- The hour. -/
def hour (t : TimeOfDay) : Nat := t.micros / 3600000000

/-- The minute. -/
def minute (t : TimeOfDay) : Nat := t.micros / 60000000 % 60

/-- The second. -/
def second (t : TimeOfDay) : Nat := t.micros / secondMicros % 60

/-- The microsecond. -/
def microsecond (t : TimeOfDay) : Nat := t.micros % secondMicros

/-- Two times are the same when they agree in universal time, or neither has an offset and they
agree as they stand. -/
def same (s t : TimeOfDay) : Bool :=
  match s.offset, t.offset with
  | none, none => s.micros == t.micros
  | some a, some b => (s.micros : Int) - a == (t.micros : Int) - b
  | _, _ => false

end TimeOfDay

/-! ## Moments -/

/-- A moment of the calendar. -/
structure Moment where
  /-- The microseconds since the beginning of the year 1, as its clock shows them. -/
  micros : Nat
  /-- The offset of its clock from universal time in microseconds, if it has one. -/
  offset : Option Int
  /-- A moment lies within the calendar. -/
  inCalendar : micros < calendarMicros
  deriving DecidableEq

namespace Moment

/-- The moment at some microseconds of the calendar. -/
def ofMicros? (micros : Int) (offset : Option Int) : Except Fault Moment :=
  if h : 0 ≤ micros ∧ micros.toNat < calendarMicros then .ok ⟨micros.toNat, offset, h.2⟩
  else .error .outOfCalendar

/-- The day on which a moment lies. -/
def day (m : Moment) : Nat := m.micros / dayMicros

/-- The time of day of a moment, without its offset. -/
def time (m : Moment) : TimeOfDay :=
  ⟨m.micros % dayMicros, none, Nat.mod_lt _ (by decide)⟩

/-- The date of a moment. -/
def date (m : Moment) : Date := Date.ofDay m.day

/-- The weekday of a moment, from 0 for Monday. -/
def weekday (m : Moment) : Nat := weekdayOfDay m.day

/-- The last moment of the calendar: it stands for "never". -/
def never : Moment := ⟨315537897599999999, none, by decide⟩

/-- The day of a moment at another time, whose offset it takes over. -/
def atTime (m : Moment) (t : TimeOfDay) : Moment :=
  ⟨m.day * dayMicros + t.micros, t.offset, by
    have hd : m.day < dayCount := by
      have h := m.inCalendar
      rw [calendarMicros_eq] at h
      exact Nat.div_lt_of_lt_mul (by rwa [Nat.mul_comm] at h)
    have ht := t.inDay
    rw [calendarMicros_eq]
    calc m.day * dayMicros + t.micros < m.day * dayMicros + dayMicros := by omega
      _ = (m.day + 1) * dayMicros := by rw [Nat.add_mul, Nat.one_mul]
      _ ≤ dayCount * dayMicros := Nat.mul_le_mul_right _ hd⟩

/-- A moment moved by some microseconds. -/
def shift (m : Moment) (span : Int) : Except Fault Moment :=
  ofMicros? (m.micros + span) m.offset

/-- A moment moved by whole days. -/
def addDays (m : Moment) (days : Nat) : Except Fault Moment :=
  m.shift (days * dayMicros : Nat)

/-- The microseconds of a moment in universal time. -/
def universal (m : Moment) : Int :=
  m.micros - m.offset.getD 0

/-- The span from `n` to `m` in microseconds, when both or neither have an offset. -/
def since? (m n : Moment) : Option Int :=
  if m.offset.isSome == n.offset.isSome then some (m.universal - n.universal) else none

/-- The span from `n` to `m` in microseconds. -/
def since (m n : Moment) : Except Fault Int :=
  match m.since? n with
  | some d => .ok d
  | none => .error .mixedSpan

/-- Whether `m` comes before `n`. -/
def before (m n : Moment) : Except Fault Bool :=
  match m.since? n with
  | some d => .ok (d < 0)
  | none => .error .mixedOrder

/-- Whether `m` comes before `n` or at the same time. -/
def notAfter (m n : Moment) : Except Fault Bool :=
  match m.since? n with
  | some d => .ok (d ≤ 0)
  | none => .error .mixedOrder

/-- Two moments are the same when they are at the same time and both or neither have an offset. -/
def same (m n : Moment) : Bool :=
  m.since? n == some 0

end Moment

/-! ## Spans -/

/-- A span of some microseconds, if its days are few enough. -/
def checkSpan (micros : Int) : Except Fault Int :=
  let days := micros.fdiv dayMicros
  if days < -2147483648 || 2147483647 < days then .error .hugeSpan
  else if days < -999999999 || 999999999 < days then .error (.longSpan days)
  else .ok micros

/-- A span of some minutes. -/
def spanOfMinutes (n : Int) : Except Fault Int :=
  checkSpan (n * 60000000)

/-- The microseconds of some seconds, rounded to the nearest one; a half goes to the even one. The
part after the point is first multiplied as a floating-point number. -/
def microsOfSeconds (x : Float) : Int :=
  match exactValue x with
  | .finite d =>
    let (num, den) := d.ratio
    let part := ofRatio false (num % den) den * 1000000.0
    match exactValue part with
    | .finite p =>
      let (pn, pd) := p.ratio
      signed d.negative (num / den * 1000000 + roundHalfEven pn pd)
    | _ => 0
  | _ => 0

/-- The seconds of some microseconds, as a floating-point number. -/
def secondsOfMicros (micros : Int) : Float :=
  ofRatio (micros < 0) micros.natAbs secondMicros

end Deskwork.Time
