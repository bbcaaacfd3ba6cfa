/-
# Reading Back Written Times

A time of day without fraction and offset is read back from its text (`readTime_clockText`), and so is
a moment from its standard form, with or without a fraction and an offset (`readMoment_iso`), as long
as the offset is one that a text tells apart from every other one (`Moment.Legible`). What is no text of
a moment is refused as a wrong value, never as a moment outside of the calendar
(`isWrongValue_of_readMoment`).
-/
import Deskwork.Fault
import Deskwork.Proofs.Results
import Deskwork.Proofs.Time.Calendar
import Deskwork.Time.Iso

namespace Deskwork.Time

open Deskwork.Text

/-! ## Digits -/

/-- The characters of a number with zeros in front. -/
def digits (width n : Nat) : List Char := (padded width n).toList

theorem digits_eq (width n : Nat) :
    digits width n
      = List.replicate (width - (Nat.toDigits 10 n).length) '0' ++ Nat.toDigits 10 n := by
  simp [digits, padded]

section Digits

variable {width n : Nat} (hw : 0 < width) (h : n < 10 ^ width)

include hw h

/-- A number that fits has as many digits as there is room. -/
theorem length_digits : (digits width n).length = width := by
  have short : (Nat.toDigits 10 n).length ≤ width :=
    (Nat.length_toDigits_le_iff (by decide) hw).mpr h
  rw [digits_eq, List.length_append, List.length_replicate]
  omega

/-- There is a first digit. -/
theorem digits_eq_cons : ∃ c cs, digits width n = c :: cs := by
  apply List.exists_cons_of_length_pos
  rw [length_digits hw h]
  exact hw

omit hw h in
/-- All of them are digits. -/
theorem isDigit_of_mem_digits {c : Char} (mem : c ∈ digits width n) : c.isDigit = true := by
  rw [digits_eq, List.mem_append] at mem
  rcases mem with front | own
  · rw [(List.mem_replicate.mp front).2]
    decide
  · exact Nat.isDigit_of_mem_toDigits (by decide) (by decide) own

omit hw h in
/-- The digits make up the number: zeros in front count nothing. -/
theorem value_digits (width n : Nat) :
    (digits width n).foldl (fun n c => n * 10 + (c.toNat - 0x30)) 0 = n := by
  have zeros (k : Nat) :
      (List.replicate k '0').foldl (fun n c => n * 10 + (c.toNat - 0x30)) 0 = 0 := by
    induction k with
    | zero => rfl
    | succ k ih => exact ih
  have own : (Nat.toDigits 10 n).foldl (fun n c => n * 10 + (c.toNat - 0x30)) 0
      = Nat.ofDigitChars 10 (Nat.toDigits 10 n) 0 := by
    simp only [Nat.ofDigitChars, Nat.mul_comm 10]
    rfl
  rw [digits_eq, List.foldl_append, zeros, own]
  exact Nat.ofDigitChars_ten_toDigits

/-- A number is read back from its digits, whatever follows. -/
theorem readDigits_digits (rest : List Char) :
    readDigits width (digits width n ++ rest) = some (n, rest) := by
  have length := length_digits hw h
  have all : (digits width n).all Char.isDigit = true :=
    List.all_eq_true.mpr fun c mem => isDigit_of_mem_digits mem
  have front : (digits width n ++ rest).take width = digits width n := by
    rw [List.take_append_of_le_length length.ge, List.take_of_length_le length.le]
  have back : (digits width n ++ rest).drop width = rest := by
    rw [List.drop_append_of_le_length length.ge, List.drop_of_length_le length.le,
      List.nil_append]
  simp only [readDigits, front, back, length, all, value_digits, decide_true, Bool.and_self,
    if_true]

end Digits

/-! ## Clocks -/

/-- The clock that shows some microseconds of a day. -/
def Clock.ofMicros (n : Nat) : Clock :=
  ⟨n / 3600000000, n / 60000000 % 60, n / secondMicros % 60, n % secondMicros⟩

/-- A clock shows the microseconds that it was made for. -/
@[simp]
theorem Clock.micros_ofMicros (n : Nat) : (ofMicros n).micros = n := by
  unfold micros ofMicros secondMicros
  dsimp only
  omega

/-- The characters of the fraction of a second. -/
def fractionChars (n : Nat) : List Char :=
  if n % secondMicros = 0 then [] else '.' :: digits 6 (n % secondMicros)

theorem toList_fractionText (n : Nat) : (fractionText n).toList = fractionChars n := by
  unfold fractionText fractionChars
  split
  · rfl
  · simp [digits]

/-- The characters of hours and minutes, before anything else. -/
def clockChars (n : Nat) (rest : List Char) : List Char :=
  digits 2 (n / 3600000000) ++ ':' :: (digits 2 (n / 60000000 % 60) ++ rest)

/-- The characters of the seconds and their fraction. -/
def secondChars (n : Nat) : List Char :=
  ':' :: (digits 2 (n / secondMicros % 60) ++ fractionChars n)

theorem toList_clockText (n : Nat) :
    (clockText ":" n).toList ++ fractionChars n = clockChars n (secondChars n) := by
  simp [clockText, clockChars, secondChars, digits]

/-- The seconds and their fraction are read by the last two steps of reading a clock. -/
theorem readFraction_digits {h m s u : Nat} (hu : u < secondMicros) :
    readFraction h m s (digits 6 u) = some (⟨h, m, s, u⟩, true) := by
  have length : (digits 6 u).length = 6 := length_digits (by decide) hu
  have read : readDigits 6 (digits 6 u ++ []) = some (u, []) := readDigits_digits (by decide) hu []
  rw [List.append_nil] at read
  unfold readFraction
  simp [length, read]

/-- What is read after hours and minutes that are separated by a colon. -/
def readAfterMinute (h m : Nat) (cs : List Char) : Option ReadClock :=
  match clockNext true cs with
  | .done complete => some (⟨h, m, 0, 0⟩, complete)
  | .fraction cs => readFraction h m 0 cs
  | .bad => none
  | .part cs => do
    let (s, cs) ← readDigits 2 cs
    match clockNext true cs with
    | .done complete => some (⟨h, m, s, 0⟩, complete)
    | .fraction cs => readFraction h m s cs
    | .bad => none
    | .part cs => readFraction h m s cs

section Clock

variable {n : Nat} (h : n < dayMicros)

include h

/-- The parts of a clock have two digits. -/
theorem parts_lt :
    n / 3600000000 < 10 ^ 2 ∧ n / 60000000 % 60 < 10 ^ 2 ∧ n / secondMicros % 60 < 10 ^ 2 := by
  unfold dayMicros at h
  unfold secondMicros
  omega

/-- Hours and minutes are read back, and then what follows. -/
theorem readClock_clockChars (rest : List Char) :
    readClock (clockChars n rest)
      = readAfterMinute (n / 3600000000) (n / 60000000 % 60) rest := by
  obtain ⟨hour, minute, -⟩ := parts_lt h
  obtain ⟨c, cs, front⟩ := digits_eq_cons (by decide) minute
  have readHour := readDigits_digits (by decide) hour
    (':' :: (digits 2 (n / 60000000 % 60) ++ rest))
  have readMinute := readDigits_digits (by decide) minute rest
  have colon : clockNext true (':' :: (digits 2 (n / 60000000 % 60) ++ rest))
      = .part (digits 2 (n / 60000000 % 60) ++ rest) := by
    rw [front]
    rfl
  unfold readClock clockChars
  rw [readHour]
  simp only [Option.bind_eq_bind, Option.bind_some, List.head?_cons, beq_self_eq_true, colon,
    readMinute]
  rfl

/-- A clock with seconds is read back. -/
theorem readClock_seconds :
    readClock (clockChars n (secondChars n)) = some (Clock.ofMicros n, true) := by
  obtain ⟨-, -, second⟩ := parts_lt h
  obtain ⟨c, cs, front⟩ := digits_eq_cons (by decide) second
  have readSecond := readDigits_digits (by decide) second (fractionChars n)
  have colon : clockNext true (secondChars n)
      = .part (digits 2 (n / secondMicros % 60) ++ fractionChars n) := by
    unfold secondChars
    rw [front]
    rfl
  rw [readClock_clockChars h, readAfterMinute, colon]
  dsimp only
  rw [readSecond]
  simp only [Option.bind_eq_bind, Option.bind_some]
  by_cases whole : n % secondMicros = 0
  · have none : fractionChars n = [] := if_pos whole
    rw [none, Clock.ofMicros, whole]
    rfl
  · have some : fractionChars n = '.' :: digits 6 (n % secondMicros) := if_neg whole
    have part : n % secondMicros < secondMicros := Nat.mod_lt _ (by decide)
    obtain ⟨c, cs, front⟩ : ∃ c cs, digits 6 (n % secondMicros) = c :: cs :=
      digits_eq_cons (by decide) part
    have point : clockNext true ('.' :: digits 6 (n % secondMicros))
        = .fraction (digits 6 (n % secondMicros)) := by
      rw [front]
      rfl
    rw [some, point]
    exact readFraction_digits part

/-- A clock of whole minutes is read back without seconds. -/
theorem readClock_minutes (whole : n % 60000000 = 0) :
    readClock (clockChars n []) = some (Clock.ofMicros n, true) := by
  have seconds : n / secondMicros % 60 = 0 ∧ n % secondMicros = 0 := by
    unfold secondMicros
    omega
  rw [readClock_clockChars h]
  simp only [readAfterMinute, clockNext, Clock.ofMicros, seconds]

/-- What a clock shows within a day is a time of day. -/
theorem toTime_ofMicros (offset : Option Int) :
    (Clock.ofMicros n).toTime offset = .ok ⟨n, offset, h⟩ := by
  have parts : ¬ 23 < n / 3600000000 ∧ ¬ 59 < n / 60000000 % 60 ∧ ¬ 59 < n / secondMicros % 60 := by
    unfold dayMicros at h
    unfold secondMicros
    omega
  unfold Clock.toTime
  simp only [Clock.micros_ofMicros]
  unfold Clock.ofMicros
  simp only [if_neg parts.1, if_neg parts.2.1, if_neg parts.2.2, dif_pos h]

end Clock

/-! ## Characters of times -/

/-- The characters of a clock. -/
def IsClockChar (c : Char) : Prop := c.isDigit = true ∨ c = ':' ∨ c = '.'

theorem isClockChar_clockChars {n : Nat} {rest : List Char} (h : ∀ c ∈ rest, IsClockChar c) :
    ∀ c ∈ clockChars n rest, IsClockChar c := by
  intro c mem
  simp only [clockChars, List.mem_append, List.mem_cons] at mem
  rcases mem with digit | rfl | digit | after
  · exact .inl (isDigit_of_mem_digits digit)
  · exact .inr (.inl rfl)
  · exact .inl (isDigit_of_mem_digits digit)
  · exact h c after

theorem isClockChar_secondChars (n : Nat) : ∀ c ∈ secondChars n, IsClockChar c := by
  intro c mem
  simp only [secondChars, List.mem_cons, List.mem_append] at mem
  rcases mem with rfl | digit | fraction
  · exact .inr (.inl rfl)
  · exact .inl (isDigit_of_mem_digits digit)
  · unfold fractionChars at fraction
    split at fraction
    · cases fraction
    · rcases List.mem_cons.mp fraction with rfl | digit
      · exact .inr (.inr rfl)
      · exact .inl (isDigit_of_mem_digits digit)

/-- No character of a clock begins an offset. -/
theorem IsClockChar.not_beginsOffset {c : Char} (h : IsClockChar c) : beginsOffset c = false := by
  rcases h with digit | rfl | rfl
  · have other : c ≠ '+' ∧ c ≠ '-' ∧ c ≠ 'Z' := by
      refine ⟨?_, ?_, ?_⟩ <;> (rintro rfl; exact absurd digit (by decide))
    simp [beginsOffset, other]
  · rfl
  · rfl

/-- A digit has a code below 128. -/
theorem toNat_lt_of_isDigit {c : Char} (h : c.isDigit = true) : c.toNat < 0x80 := by
  have code : c.val ≤ 57 := by
    simp only [Char.isDigit, Bool.and_eq_true, decide_eq_true_eq] at h
    exact h.2
  have : c.val.toNat ≤ 57 := UInt32.le_iff_toNat_le.mp code
  show c.val.toNat < 128
  omega

theorem IsClockChar.toNat_lt {c : Char} (h : IsClockChar c) : c.toNat < 0x80 := by
  rcases h with digit | rfl | rfl
  · exact toNat_lt_of_isDigit digit
  · decide
  · decide

/-- The bytes of a text are its characters when all of these have codes below 128. -/
theorem octets_eq {s : String} (h : ∀ c ∈ s.toList, c.toNat < 0x80) : octets s = s.toList := by
  unfold octets encode
  generalize s.toList = cs at h
  induction cs with
  | nil => rfl
  | cons c cs ih =>
    obtain ⟨small, others⟩ := List.forall_mem_cons.mp h
    have byte : encodeChar c = [UInt8.ofNat c.toNat] := if_pos small
    have code : (UInt8.ofNat c.toNat).toNat = c.toNat :=
      Nat.mod_eq_of_lt (small.trans (by decide))
    rw [List.flatMap_cons, byte, List.singleton_append, List.map_cons, ih others, code,
      Char.ofNat_toNat]

/-! ## Offsets -/

/-- An offset that a text tells apart from every other one: it is less than a day, and at least a
second unless it is zero. -/
def LegibleOffset (o : Int) : Prop :=
  o.natAbs < dayMicros ∧ (o = 0 ∨ secondMicros ≤ o.natAbs)

/-- The characters of an offset after its sign. -/
def spanChars (n : Nat) : List Char :=
  clockChars n (if n % 60000000 = 0 then [] else secondChars n)

theorem isClockChar_spanChars (n : Nat) : ∀ c ∈ spanChars n, IsClockChar c := by
  apply isClockChar_clockChars
  split
  · intro c mem
    cases mem
  · exact isClockChar_secondChars n

theorem toList_offsetText (o : Int) :
    (offsetText o).toList = (if o < 0 then '-' else '+') :: spanChars o.natAbs := by
  have seconds : (if o.natAbs % 60000000 = 0 then ""
        else ":" ++ padded 2 (o.natAbs / secondMicros % 60) ++ fractionText o.natAbs).toList
      = if o.natAbs % 60000000 = 0 then [] else secondChars o.natAbs := by
    split
    · rfl
    · simp [secondChars, digits, toList_fractionText]
  unfold offsetText spanChars clockChars
  dsimp only
  rw [String.toList_append, seconds]
  split <;> simp [digits]

/-- The span of an offset is read back. -/
theorem readWholeClock_spanChars {n : Nat} (h : n < dayMicros) :
    readWholeClock (spanChars n) = some (Clock.ofMicros n) := by
  unfold readWholeClock spanChars
  by_cases whole : n % 60000000 = 0
  · rw [if_pos whole, readClock_minutes h whole]
  · rw [if_neg whole, readClock_seconds h]

/-- The characters of an offset, if there is one. -/
def offsetChars (offset : Option Int) : List Char :=
  ((offset.map offsetText).getD "").toList

/-- A clock and the offset after it are read back. -/
theorem readClockAndOffset_chars {n : Nat} (h : n < dayMicros) {offset : Option Int}
    (legible : ∀ o, offset = some o → LegibleOffset o) :
    readClockAndOffset (clockChars n (secondChars n) ++ offsetChars offset)
      = some (Clock.ofMicros n, offset) := by
  have front : ∀ c ∈ clockChars n (secondChars n), (!beginsOffset c) = true := by
    intro c mem
    rw [(isClockChar_clockChars (isClockChar_secondChars n) c mem).not_beginsOffset]
    rfl
  have clock := readClock_seconds h
  unfold readClockAndOffset
  rw [List.takeWhile_append_of_pos front, List.dropWhile_append_of_pos front]
  cases offset with
  | none =>
    have none : offsetChars none = [] := rfl
    simp only [none, List.takeWhile_nil, List.dropWhile_nil, List.append_nil, readWholeClock,
      clock]
    rfl
  | some o =>
    obtain ⟨below, apart⟩ := legible o rfl
    have chars : offsetChars (some o) = (if o < 0 then '-' else '+') :: spanChars o.natAbs :=
      toList_offsetText o
    obtain ⟨k, magnitude⟩ : ∃ k, k = o.natAbs := ⟨_, rfl⟩
    rw [← magnitude] at below chars
    have span := readWholeClock_spanChars below
    have size : (if k < secondMicros then (0 : Int) else (k : Int)) = k := by
      split
      · omega
      · rfl
    rw [chars]
    by_cases negative : o < 0
    · have sign : -(k : Int) = o := by omega
      simp [negative, beginsOffset, clock, span, size, sign]
    · obtain rfl : o = k := by omega
      rw [if_neg negative]
      simp [beginsOffset, clock, span, size]

/-! ## Times of day -/

/-- A time of day of whole seconds without offset is read back. -/
theorem readTime_clockText {t : TimeOfDay} (whole : t.micros % secondMicros = 0)
    (plain : t.offset = none) : readTime (clockText ":" t.micros) = .ok t := by
  have noFraction : fractionChars t.micros = [] := if_pos whole
  have chars : (clockText ":" t.micros).toList = clockChars t.micros (secondChars t.micros) := by
    rw [← toList_clockText, noFraction, List.append_nil]
  have all : ∀ c ∈ clockChars t.micros (secondChars t.micros), IsClockChar c :=
    isClockChar_clockChars (isClockChar_secondChars t.micros)
  have bytes : octets (clockText ":" t.micros) = clockChars t.micros (secondChars t.micros) := by
    rw [octets_eq fun c mem => (all c (chars ▸ mem)).toNat_lt, chars]
  have noT : ((clockChars t.micros (secondChars t.micros)).head? == some 'T') = false := by
    cases front : clockChars t.micros (secondChars t.micros) with
    | nil => rfl
    | cons c cs =>
      have clockChar : IsClockChar c := all c (by rw [front]; exact List.mem_cons_self)
      have other : c ≠ 'T' := by
        rintro rfl
        rcases clockChar with digit | colon | point
        · exact absurd digit (by decide)
        · exact absurd colon (by decide)
        · exact absurd point (by decide)
      simpa using other
  have legible : ∀ o, (none : Option Int) = some o → LegibleOffset o := by
    rintro o ⟨⟩
  have read := readClockAndOffset_chars t.inDay legible
  have noOffset : offsetChars none = [] := rfl
  rw [noOffset, List.append_nil] at read
  unfold readTime
  simp only [bytes, noT, Bool.false_eq_true, if_false, read, checkOffset, bind, Except.bind]
  rw [toTime_ofMicros t.inDay, ← plain]

/-! ## Moments -/

/-- The characters of a date. -/
def dateChars (d : Date) : List Char :=
  digits 4 d.year ++ '-' :: (digits 2 d.month ++ '-' :: digits 2 d.day)

/-- The months of the calendar are short. -/
theorem daysInMonth_le (year month : Nat) : daysInMonth year month ≤ 31 := by
  have short : ∀ n ∈ monthLengths year, n ≤ 31 := by
    unfold monthLengths
    cases isLeap year <;> decide
  unfold daysInMonth
  rw [List.getD_eq_getElem?_getD]
  cases found : (monthLengths year)[month - 1]? with
  | none => exact Nat.zero_le 31
  | some n => exact short n (List.mem_of_getElem? found)

/-- The parts of a date have four and two digits. -/
theorem Date.Valid.parts_lt {d : Date} (h : d.Valid) :
    d.year < 10 ^ 4 ∧ d.month < 10 ^ 2 ∧ d.day < 10 ^ 2 := by
  have year := h.year.2
  have month := h.month.2
  have day := h.day.2.trans (daysInMonth_le d.year d.month)
  unfold lastYear at year
  omega

section Date

variable {d : Date} (h : d.Valid)

include h

theorem length_dateChars : (dateChars d).length = 10 := by
  obtain ⟨year, month, day⟩ := h.parts_lt
  simp [dateChars, length_digits (by decide : 0 < 4) year, length_digits (by decide : 0 < 2) month,
    length_digits (by decide : 0 < 2) day]

/-- The date in front of something takes up its own length. -/
theorem dateLength_dateChars {rest : List Char} (more : rest ≠ []) :
    dateLength (dateChars d ++ rest) = some 10 := by
  obtain ⟨year, month, day⟩ := h.parts_lt
  have length : (dateChars d ++ rest).length = 10 + rest.length := by
    rw [List.length_append, length_dateChars h]
  have pos : 0 < rest.length := List.length_pos_of_ne_nil more
  have fourDigits := length_digits (by decide : 0 < 4) year
  obtain ⟨c, cs, front⟩ := digits_eq_cons (by decide : 0 < 2) month
  have dash : (dateChars d ++ rest)[4]? = some '-' := by
    simp [dateChars, fourDigits]
  have monthDigit : (dateChars d ++ rest)[5]? ≠ some 'W' := by
    have digit : c.isDigit = true :=
      isDigit_of_mem_digits (by rw [front]; exact List.mem_cons_self)
    have found : (dateChars d ++ rest)[5]? = some c := by
      simp [dateChars, front, List.getElem?_append_right, fourDigits]
    rw [found]
    rintro ⟨⟩
    exact absurd digit (by decide)
  unfold dateLength
  rw [length]
  dsimp only
  rw [if_neg (by omega), if_neg (by omega), if_pos dash, if_neg monthDigit]

/-- A date is read back by its parts. -/
theorem readDate_dateChars : readDate (dateChars d) = some (.parts d.year d.month d.day) := by
  obtain ⟨year, month, day⟩ := h.parts_lt
  have readYear := readDigits_digits (by decide) year
    ('-' :: (digits 2 d.month ++ '-' :: digits 2 d.day))
  have readMonth := readDigits_digits (by decide) month ('-' :: digits 2 d.day)
  have readDay := readDigits_digits (by decide) day []
  rw [List.append_nil] at readDay
  obtain ⟨c, cs, front⟩ := digits_eq_cons (by decide : 0 < 2) month
  have noWeek : c ≠ 'W' := by
    have digit : c.isDigit = true :=
      isDigit_of_mem_digits (by rw [front]; exact List.mem_cons_self)
    rintro rfl
    exact absurd digit (by decide)
  rw [front] at readYear readMonth
  unfold readDate dateChars
  rw [front]
  simp only [List.cons_append] at readYear readMonth ⊢
  simp [readYear, noWeek, readMonth, readDay]

/-- A date whose parts lie in their ranges is a day of the calendar. -/
theorem toDay_parts : (ReadDate.parts d.year d.month d.day).toDay = .ok d.toDay := by
  obtain ⟨year, month, day⟩ := h
  have years : ¬ (d.year = 0 ∨ lastYear < d.year) := by omega
  have months : ¬ (d.month = 0 ∨ 12 < d.month) := by omega
  have days : ¬ (d.day = 0 ∨ daysInMonth d.year d.month < d.day) := by omega
  simp only [ReadDate.toDay, Bool.or_eq_true, decide_eq_true_eq, if_neg years, if_neg months,
    if_neg days]

end Date

/-- A moment whose offset, if it has one, is told apart from every other one by a text. -/
def Moment.Legible (m : Moment) : Prop := ∀ o, m.offset = some o → LegibleOffset o

/-- A moment lies on a day of the calendar. -/
theorem Moment.day_lt (m : Moment) : m.day < dayCount := by
  have h := m.inCalendar
  rw [calendarMicros_eq, Nat.mul_comm] at h
  exact Nat.div_lt_of_lt_mul h

/-- The date of a moment has its parts in their ranges. -/
theorem Moment.valid_date (m : Moment) : m.date.Valid := Date.valid_ofDay m.day_lt

/-- The characters of a moment in standard form. -/
def isoChars (m : Moment) : List Char :=
  dateChars m.date ++ 'T' ::
    (clockChars m.time.micros (secondChars m.time.micros) ++ offsetChars m.offset)

theorem toList_iso (m : Moment) : m.iso.toList = isoChars m := by
  have clock := toList_clockText m.time.micros
  unfold Moment.iso Moment.textWith Moment.dateText isoChars offsetChars dateChars
  rw [← clock]
  simp [digits, toList_fractionText]

/-- The characters of a moment in standard form have codes below 128. -/
theorem toNat_lt_of_mem_isoChars {m : Moment} : ∀ c ∈ isoChars m, c.toNat < 0x80 := by
  have clocks {n : Nat} : ∀ c ∈ clockChars n (secondChars n), c.toNat < 0x80 := fun c mem =>
    (isClockChar_clockChars (isClockChar_secondChars n) c mem).toNat_lt
  have offsets : ∀ c ∈ offsetChars m.offset, c.toNat < 0x80 := by
    cases m.offset with
    | none =>
      intro c mem
      cases mem
    | some o =>
      intro c mem
      have chars : offsetChars (some o) = (if o < 0 then '-' else '+') :: spanChars o.natAbs :=
        toList_offsetText o
      rw [chars, List.mem_cons] at mem
      rcases mem with rfl | mem
      · split <;> decide
      · exact (isClockChar_spanChars _ c mem).toNat_lt
  have dates : ∀ c ∈ dateChars m.date, c.toNat < 0x80 := by
    intro c mem
    simp only [dateChars, List.mem_append, List.mem_cons] at mem
    rcases mem with digit | rfl | digit | rfl | digit
    · exact toNat_lt_of_isDigit (isDigit_of_mem_digits digit)
    · decide
    · exact toNat_lt_of_isDigit (isDigit_of_mem_digits digit)
    · decide
    · exact toNat_lt_of_isDigit (isDigit_of_mem_digits digit)
  intro c mem
  simp only [isoChars, List.mem_append, List.mem_cons] at mem
  rcases mem with date | rfl | clock | offset
  · exact dates c date
  · decide
  · exact clocks c clock
  · exact offsets c offset

/-- Date, clock and offset are read back. -/
theorem readParts_isoChars {m : Moment} (legible : m.Legible) :
    readParts (isoChars m)
      = some (.parts m.date.year m.date.month m.date.day, Clock.ofMicros m.time.micros, m.offset) := by
  have valid := m.valid_date
  have length := length_dateChars valid
  have front : (isoChars m).take 10 = dateChars m.date := by
    rw [isoChars, List.take_append_of_le_length length.ge, List.take_of_length_le length.le]
  have back : (isoChars m).drop 10 = 'T' ::
      (clockChars m.time.micros (secondChars m.time.micros) ++ offsetChars m.offset) := by
    rw [isoChars, List.drop_append_of_le_length length.ge, List.drop_of_length_le length.le,
      List.nil_append]
  have long : ¬ (isoChars m).length ≤ 10 := by
    rw [isoChars, List.length_append, length, List.length_cons]
    omega
  have dated : dateLength (isoChars m) = some 10 := dateLength_dateChars valid (List.cons_ne_nil _ _)
  have clock := readClockAndOffset_chars m.time.inDay legible
  unfold readParts
  rw [dated]
  simp only [Option.bind_eq_bind, Option.bind_some, front, readDate_dateChars valid, back, if_neg long]
  show (readClockAndOffset
    (clockChars m.time.micros (secondChars m.time.micros) ++ offsetChars m.offset)).bind _ = _
  rw [clock]
  rfl

/-- A moment is read back from its standard form. -/
theorem readMoment_iso {m : Moment} (legible : m.Legible) : readMoment m.iso = .ok m := by
  have bytes : octets m.iso = isoChars m := by
    rw [octets_eq fun c mem => toNat_lt_of_mem_isoChars c (toList_iso m ▸ mem), toList_iso]
  have offset : checkOffset m.offset = .ok m.offset := by
    cases there : m.offset with
    | none => rfl
    | some o => exact if_pos (legible o there).1
  have day : m.date.toDay = m.day := Date.toDay_ofDay m.day
  have whole : m.day * dayMicros + m.time.micros = m.micros := Nat.div_add_mod' m.micros dayMicros
  have inside : 0 ≤ (m.micros : Int) ∧ (m.micros : Int).toNat < calendarMicros :=
    ⟨Int.natCast_nonneg _, m.inCalendar⟩
  unfold readMoment
  rw [bytes, readParts_isoChars legible]
  simp only [offset, toDay_parts m.valid_date, toTime_ofMicros m.time.inDay, day, whole, bind,
    Except.bind, Moment.ofMicros?, dif_pos inside]
  rfl

/-! ## What is no time -/

/-- A fault of a wrong value: a text writes nothing, or one of its parts lies outside its range. -/
def Fault.isWrongValue : Fault → Bool
  | .badText _ | .badPart _ => true
  | _ => false

/-- Such a fault is known as that of a wrong value. -/
theorem Fault.isValue_of_isWrongValue {f : Fault} (h : f.isWrongValue = true) :
    (Deskwork.Fault.time f).isValue = true := by
  cases f with
  | badText s => rfl
  | badPart part => rfl
  | outOfCalendar | longSpan | hugeSpan | mixedOrder | mixedSpan | notText => cases h

theorem isWrongValue_of_checkOffset {offset : Option Int} {f : Fault}
    (h : checkOffset offset = .error f) : f.isWrongValue = true := by
  unfold checkOffset at h
  split at h
  · split at h <;> cases h
    rfl
  · cases h

theorem isWrongValue_of_toTime {c : Clock} {offset : Option Int} {f : Fault}
    (h : c.toTime offset = .error f) : f.isWrongValue = true := by
  unfold Clock.toTime at h
  split_ifs at h <;> cases h <;> rfl

theorem isWrongValue_of_toDay {d : ReadDate} {f : Fault} (h : d.toDay = .error f) :
    f.isWrongValue = true := by
  cases d with
  | parts y m d =>
    simp only [ReadDate.toDay] at h
    split_ifs at h <;> cases h <;> rfl
  | day n =>
    simp only [ReadDate.toDay] at h
    split_ifs at h <;> cases h <;> rfl

/-- A day that is read is one of the calendar. -/
theorem lt_of_toDay {d : ReadDate} {n : Nat} (h : d.toDay = .ok n) : n < dayCount := by
  cases d with
  | parts y m d =>
    simp only [ReadDate.toDay, Bool.or_eq_true, decide_eq_true_eq] at h
    split_ifs at h with year month day
    cases h
    apply Date.toDay_lt
    constructor
    · show 0 < y ∧ y ≤ lastYear
      omega
    · show 0 < m ∧ m ≤ 12
      omega
    · show 0 < d ∧ d ≤ daysInMonth y m
      omega
  | day k =>
    simp only [ReadDate.toDay] at h
    split_ifs at h with negative late
    cases h
    omega

/-- A text that is no time of day has a wrong value. -/
theorem isWrongValue_of_readTime {s : String} {f : Fault} (h : readTime s = .error f) :
    f.isWrongValue = true := by
  unfold readTime at h
  dsimp only at h
  split at h
  · cases h
    rfl
  · rcases bind_eq_error_iff.mp h with offset | ⟨offset, -, clock⟩
    · exact isWrongValue_of_checkOffset offset
    · exact isWrongValue_of_toTime clock

/-- A text that is no moment has a wrong value: date and clock never lead out of the calendar. -/
theorem isWrongValue_of_readMoment {s : String} {f : Fault} (h : readMoment s = .error f) :
    f.isWrongValue = true := by
  unfold readMoment at h
  split at h
  · cases h
    rfl
  · rcases bind_eq_error_iff.mp h with offset | ⟨offset, -, h⟩
    · exact isWrongValue_of_checkOffset offset
    rcases bind_eq_error_iff.mp h with day | ⟨day, counted, h⟩
    · exact isWrongValue_of_toDay day
    rcases bind_eq_error_iff.mp h with clock | ⟨time, -, h⟩
    · exact isWrongValue_of_toTime clock
    have early := lt_of_toDay counted
    have within : day * dayMicros + time.micros < calendarMicros :=
      calc day * dayMicros + time.micros < day * dayMicros + dayMicros :=
            Nat.add_lt_add_left time.inDay _
        _ = (day + 1) * dayMicros := (Nat.succ_mul day dayMicros).symm
        _ ≤ dayCount * dayMicros := Nat.mul_le_mul_right _ early
        _ = calendarMicros := calendarMicros_eq.symm
    rw [Moment.ofMicros?, dif_pos ⟨Int.natCast_nonneg _, within⟩] at h
    cases h

end Deskwork.Time
