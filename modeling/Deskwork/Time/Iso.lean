/-
# Standard Texts of Times

Writing moments and times of day in the standard numeric form, and reading them: with or without
separators, by month or by week, with a fraction of any length and an offset.
-/
import Deskwork.Text.Utf8
import Deskwork.Time.Moment

namespace Deskwork.Time

open Deskwork.Text

/-! ## Writing -/

/-- A number with zeros in front up to a width. -/
def padded (width n : Nat) : String :=
  let ds := Nat.toDigits 10 n
  String.ofList (List.replicate (width - ds.length) '0' ++ ds)

/-- Hours, minutes and seconds of some microseconds of a day. -/
def clockText (sep : String) (micros : Nat) : String :=
  padded 2 (micros / 3600000000) ++ sep ++ padded 2 (micros / 60000000 % 60) ++ sep
    ++ padded 2 (micros / secondMicros % 60)

/-- The fraction of a second, when there is one. -/
def fractionText (micros : Nat) : String :=
  if micros % secondMicros = 0 then "" else "." ++ padded 6 (micros % secondMicros)

/-- The offset from universal time: seconds and their fraction are left out when they are zero. -/
def offsetText (offset : Int) : String :=
  let n := offset.natAbs
  (if offset < 0 then "-" else "+") ++ padded 2 (n / 3600000000) ++ ":"
    ++ padded 2 (n / 60000000 % 60)
    ++ (if n % 60000000 = 0 then "" else ":" ++ padded 2 (n / secondMicros % 60) ++ fractionText n)

/-- The date of a moment, its year in four digits. -/
def Moment.dateText (m : Moment) : String :=
  padded 4 m.date.year ++ "-" ++ padded 2 m.date.month ++ "-" ++ padded 2 m.date.day

/-- A moment in standard form, with the given text between date and time. -/
def Moment.textWith (sep : String) (m : Moment) : String :=
  m.dateText ++ sep ++ clockText ":" m.time.micros ++ fractionText m.time.micros
    ++ (m.offset.map offsetText).getD ""

/-- A moment in standard form. -/
def Moment.iso (m : Moment) : String := m.textWith "T"

/-- A moment in standard form, with a blank between date and time. -/
def Moment.plain (m : Moment) : String := m.textWith " "

/-- The date of a moment, its year without zeros in front. -/
def Moment.shortDate (sep : String) (m : Moment) : String :=
  toString m.date.year ++ sep ++ padded 2 m.date.month ++ sep ++ padded 2 m.date.day

/-- Hours, minutes and seconds of a moment. -/
def Moment.clock (sep : String) (m : Moment) : String :=
  clockText sep m.time.micros

/-! ## Reading digits -/

/-- The first `count` characters as a number, when all are digits, and what follows them. -/
def readDigits (count : Nat) (cs : List Char) : Option (Nat × List Char) :=
  let ds := cs.take count
  if ds.length = count && ds.all Char.isDigit then
    some (ds.foldl (fun n c => n * 10 + (c.toNat - 0x30)) 0, cs.drop count)
  else none

/-- A text, one character for each of its bytes. -/
def octets (s : String) : List Char :=
  (encode s).map fun b => Char.ofNat b.toNat

/-! ## Reading a clock -/

/-- Hour, minute, second and microsecond as they were read. -/
structure Clock where
  hour : Nat
  minute : Nat
  second : Nat
  microsecond : Nat

/-- The microseconds of a clock. -/
def Clock.micros (c : Clock) : Nat :=
  ((c.hour * 60 + c.minute) * 60 + c.second) * secondMicros + c.microsecond

/-- A clock that was read, and whether nothing was left over after it. -/
abbrev ReadClock := Clock × Bool

/-- The fraction of a second: six digits count and further ones are passed over. -/
def readFraction (h m s : Nat) (cs : List Char) : Option ReadClock := do
  let count := min cs.length 6
  let (n, rest) ← readDigits count cs
  return (⟨h, m, s, n * Nat.pow 10 (6 - count)⟩, rest.all Char.isDigit)

/-- What comes after the hour, the minute or the second. -/
inductive ClockNext where
  /-- The text ends, or a single character is left over. -/
  | done (complete : Bool)
  | part (rest : List Char)
  | fraction (rest : List Char)
  | bad

/-- What comes after a pair of digits, where `separated` tells whether colons are in use. -/
def clockNext (separated : Bool) (cs : List Char) : ClockNext :=
  match cs with
  | [] => .done true
  | [_] => .done false
  | c :: rest =>
    if separated && c == ':' then .part rest
    else if c == '.' || c == ',' then .fraction rest
    else if !separated then .part cs
    else .bad

/-- Hour, then perhaps minute, second and fraction; what follows the second is its fraction,
whatever separates it. -/
def readClock (cs : List Char) : Option ReadClock := do
  let (h, cs) ← readDigits 2 cs
  let separated := cs.head? == some ':'
  match clockNext separated cs with
  | .done complete => some (⟨h, 0, 0, 0⟩, complete)
  | .fraction cs => readFraction h 0 0 cs
  | .bad => none
  | .part cs =>
    let (m, cs) ← readDigits 2 cs
    match clockNext separated cs with
    | .done complete => some (⟨h, m, 0, 0⟩, complete)
    | .fraction cs => readFraction h m 0 cs
    | .bad => none
    | .part cs =>
      let (s, cs) ← readDigits 2 cs
      match clockNext separated cs with
      | .done complete => some (⟨h, m, s, 0⟩, complete)
      | .fraction cs => readFraction h m s cs
      | .bad => none
      | .part cs => readFraction h m s cs

/-- A clock after which nothing is left over. -/
def readWholeClock (cs : List Char) : Option Clock :=
  match readClock cs with
  | some (clock, true) => some clock
  | _ => none

/-- A character that begins an offset. -/
def beginsOffset (c : Char) : Bool :=
  c == '+' || c == '-' || c == 'Z'

/-- A clock and the offset after it; something may be left over between the two, and an offset of
less than a second is none. -/
def readClockAndOffset (cs : List Char) : Option (Clock × Option Int) := do
  let front := cs.takeWhile fun c => !beginsOffset c
  match cs.dropWhile fun c => !beginsOffset c with
  | [] => return (← readWholeClock front, none)
  | 'Z' :: rest => if rest.isEmpty then return ((← readClock front).1, some 0) else none
  | c :: rest =>
    let (clock, _) ← readClock front
    let offset ← readWholeClock rest
    let micros : Int := if offset.micros < secondMicros then 0 else offset.micros
    return (clock, some (if c == '-' then -micros else micros))

/-- An offset is less than a day. -/
def checkOffset (offset : Option Int) : Except Fault (Option Int) :=
  match offset with
  | some o => if o.natAbs < dayMicros then .ok offset else .error (.badPart (.offset o))
  | none => .ok none

/-- A clock whose parts lie in their ranges is a time of day. -/
def Clock.toTime (c : Clock) (offset : Option Int) : Except Fault TimeOfDay :=
  if 23 < c.hour then .error (.badPart .hour)
  else if 59 < c.minute then .error (.badPart .minute)
  else if 59 < c.second then .error (.badPart .second)
  else if h : c.micros < dayMicros then .ok ⟨c.micros, offset, h⟩
  else .error (.badPart .hour)

/-- The time of day that a text writes; a `T` may stand in front. -/
def readTime (s : String) : Except Fault TimeOfDay :=
  let cs := octets s
  let cs := if cs.head? == some 'T' then cs.drop 1 else cs
  match readClockAndOffset cs with
  | none => .error (.badText s)
  | some (clock, offset) => do clock.toTime (← checkOffset offset)

/-! ## Reading a date -/

/-- The number of characters of the date in front of a text of at least seven characters. -/
def dateLength (cs : List Char) : Option Nat :=
  let n := cs.length
  if n < 7 then none
  else if n = 7 then some 7
  else if cs[4]? = some '-' then
    if cs[5]? = some 'W' then
      if 8 < n && cs[8]? = some '-' then
        if n = 9 then none
        else if (cs[10]?.map Char.isDigit).getD false then some 8
        else some 10
      else some 8
    else some 10
  else if cs[4]? = some 'W' then
    let pos := 7 + ((cs.drop 7).takeWhile Char.isDigit).length
    if pos < 9 then some pos
    else if pos % 2 = 0 then some 7
    else some 8
  else some 8

/-- A year has a 53rd week when it begins on a Thursday, or on a Wednesday in a leap year. -/
def hasLongYear (year : Nat) : Bool :=
  let first := weekdayOfDay (daysBeforeYear year)
  first == 3 || (first == 2 && isLeap year)

/-- The day of a weekday in a week; the first week of a year is the one with its first Thursday. -/
def dayOfWeek? (year week weekday : Nat) : Option Int :=
  if week = 0 || 53 < week || (week = 53 && !hasLongYear year) then none
  else if weekday = 0 || 7 < weekday then none
  else
    let first : Int := if year = 0 then -366 else daysBeforeYear year
    let skipped : Int := first % 7
    let monday : Int := if 3 < skipped then first - skipped + 7 else first - skipped
    some (monday + ((week - 1) * 7 + (weekday - 1) : Nat))

/-- A date as it was read: by its parts, or by the day that a week and a weekday give. -/
inductive ReadDate where
  | parts (year month day : Nat)
  /-- The day counted from the beginning of the calendar. -/
  | day (n : Int)

/-- The date that some characters write. -/
def readDate (cs : List Char) : Option ReadDate := do
  let (year, cs) ← readDigits 4 cs
  let separated := cs.head? == some '-'
  let cs := if separated then cs.drop 1 else cs
  if cs.head? == some 'W' then
    let (week, cs) ← readDigits 2 (cs.drop 1)
    if cs.isEmpty then (dayOfWeek? year week 1).map .day
    else
      if separated && cs.head? != some '-' then none
      else
        let cs := if separated then cs.drop 1 else cs
        let (weekday, _) ← readDigits 1 cs
        (dayOfWeek? year week weekday).map .day
  else
    let (month, cs) ← readDigits 2 cs
    if separated && cs.head? != some '-' then none
    else
      let cs := if separated then cs.drop 1 else cs
      let (day, cs) ← readDigits 2 cs
      if cs.isEmpty then some (.parts year month day) else none

/-- A date whose parts lie in their ranges is a day of the calendar. -/
def ReadDate.toDay : ReadDate → Except Fault Nat
  | .parts y m d =>
    if y = 0 || lastYear < y then .error (.badPart (.year y))
    else if m = 0 || 12 < m then .error (.badPart .month)
    else if d = 0 || daysInMonth y m < d then .error (.badPart .day)
    else .ok (Date.toDay ⟨y, m, d⟩)
  | .day n =>
    if n < 0 then .error (.badPart .month)
    else if dayCount ≤ n.toNat then .error (.badPart (.year (lastYear + 1)))
    else .ok n.toNat

/-- What follows the character that separates date and time; it may have several bytes. -/
def dropSeparator (cs : List Char) : List Char :=
  match cs with
  | [] => []
  | c :: rest =>
    if c.toNat < 0x80 then rest
    else if 0xF0 ≤ c.toNat then rest.drop 3
    else if 0xE0 ≤ c.toNat then rest.drop 2
    else rest.drop 1

/-- Date, clock and offset of a moment. -/
def readParts (cs : List Char) : Option (ReadDate × Clock × Option Int) := do
  let n ← dateLength cs
  let date ← readDate (cs.take n)
  if cs.length ≤ n then return (date, ⟨0, 0, 0, 0⟩, none)
  else
    let (clock, offset) ← readClockAndOffset (dropSeparator (cs.drop n))
    return (date, clock, offset)

/-- The moment that a text writes. -/
def readMoment (s : String) : Except Fault Moment :=
  match readParts (octets s) with
  | none => .error (.badText s)
  | some (date, clock, offset) => do
    let offset ← checkOffset offset
    let day ← date.toDay
    let time ← clock.toTime none
    Moment.ofMicros? (day * dayMicros + time.micros : Nat) offset

/-- A moment is read as it is written. -/
example : ((readMoment "2024-03-05T07:08:09.000250+02:00").toOption.map Moment.iso)
    = some "2024-03-05T07:08:09.000250+02:00" := by decide +kernel

end Deskwork.Time
