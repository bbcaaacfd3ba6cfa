/-
# Days and Their Dates

The days of the calendar and the dates that name them. Every day has a date whose parts lie in their
ranges (`Date.valid_ofDay`), and counting the days before that date gives the day again
(`Date.toDay_ofDay`). Conversely, a date whose parts lie in their ranges names a day of the calendar
(`Date.toDay_lt`).
-/
import Deskwork.Time.Calendar
import Mathlib.Algebra.GroupWithZero.Nat
import Mathlib.Algebra.Order.BigOperators.Group.List
import Mathlib.Algebra.Order.Group.Nat
import Mathlib.Order.Monotone.Basic
import Mathlib.Tactic.SplitIfs

namespace Deskwork.Time

/-! ## Years -/

/-- The days of a year. -/
def yearLength (year : Nat) : Nat := if isLeap year then 366 else 365

/-- The months make up the year. -/
theorem sum_monthLengths (year : Nat) : (monthLengths year).sum = yearLength year := by
  unfold monthLengths yearLength
  split <;> rfl

theorem length_monthLengths (year : Nat) : (monthLengths year).length = 12 := rfl

/-- A leap year is divisible by four, and by four hundred if by a hundred. -/
theorem isLeap_iff {year : Nat} :
    isLeap year = true ↔ year % 4 = 0 ∧ (year % 100 ≠ 0 ∨ year % 400 = 0) := by
  simp [isLeap]

/-- A quotient grows by one at the multiples of the divisor. -/
theorem succ_div_eq (n k : Nat) :
    (n + 1) / k = n / k + if (n + 1) % k = 0 then 1 else 0 := by
  rw [Nat.succ_div]
  simp only [Nat.dvd_iff_mod_eq_zero]

/-- The days before the next year are those before this one and its own. -/
theorem daysBeforeYear_succ {year : Nat} (h : 0 < year) :
    daysBeforeYear (year + 1) = daysBeforeYear year + yearLength year := by
  obtain ⟨n, rfl⟩ := Nat.exists_eq_succ_of_ne_zero h.ne'
  have leap : isLeap (n + 1) = true
      ↔ (n + 1) % 4 = 0 ∧ ((n + 1) % 100 ≠ 0 ∨ (n + 1) % 400 = 0) := isLeap_iff
  have centuries : (n + 1) % 100 = 0 → (n + 1) % 4 = 0 := by omega
  have cycles : (n + 1) % 400 = 0 → (n + 1) % 100 = 0 := by omega
  have few : n / 100 ≤ n / 4 := Nat.div_le_div_left (by decide) (by decide)
  simp only [daysBeforeYear, yearLength, Nat.succ_eq_add_one, Nat.add_sub_cancel,
    succ_div_eq n 4, succ_div_eq n 100, succ_div_eq n 400, leap]
  split_ifs <;> omega

/-- Later years have more days before them. -/
theorem daysBeforeYear_mono : Monotone daysBeforeYear := by
  apply monotone_nat_of_le_succ
  intro year
  cases year with
  | zero => exact le_rfl
  | succ n =>
    rw [daysBeforeYear_succ n.succ_pos]
    exact Nat.le_add_right _ _

/-- The days before a year, by its cycles of 400, 100, 4 and 1 years. -/
theorem daysBeforeYear_cycles {a b c d : Nat} (hb : b ≤ 3) (hc : c ≤ 24) (hd : d ≤ 3) :
    daysBeforeYear (400 * a + 100 * b + 4 * c + d + 1)
      = 146097 * a + 36524 * b + 1461 * c + 365 * d := by
  have fours : (400 * a + 100 * b + 4 * c + d) / 4 = 100 * a + 25 * b + c := by omega
  have centuries : (400 * a + 100 * b + 4 * c + d) / 100 = 4 * a + b := by omega
  have cycles : (400 * a + 100 * b + 4 * c + d) / 400 = a := by omega
  simp only [daysBeforeYear, Nat.add_sub_cancel, fours, centuries, cycles]
  omega

/-- The cycles that are taken off a day, and what is left of it: a 366th day is left in the last year
of a cycle of four only, unless that is the last one of a century that does not end a long cycle. -/
theorem yearAndRest_cycles (day : Nat) :
    ∃ a b c d rest, b ≤ 3 ∧ c ≤ 24 ∧ d ≤ 3
      ∧ yearAndRest day = (400 * a + 100 * b + 4 * c + d + 1, rest)
      ∧ 146097 * a + 36524 * b + 1461 * c + 365 * d + rest = day
      ∧ (rest < 365 ∨ rest = 365 ∧ d = 3 ∧ (c = 24 → b = 3)) := by
  have hlong : day % 146097 < 146097 := Nat.mod_lt _ (by decide)
  have hday : 146097 * (day / 146097) + day % 146097 = day := Nat.div_add_mod _ _
  generalize hr400 : day % 146097 = r400 at hlong hday
  obtain ⟨b, hb⟩ : ∃ b, b = min (r400 / 36524) 3 := ⟨_, rfl⟩
  obtain ⟨r100, hr100⟩ : ∃ r, r = r400 - b * 36524 := ⟨_, rfl⟩
  have hcentury : b ≤ 3 ∧ 36524 * b + r100 = r400 ∧ (r100 < 36524 ∨ r100 = 36524 ∧ b = 3) := by omega
  obtain ⟨d, hd⟩ : ∃ d, d = min (r100 % 1461 / 365) 3 := ⟨_, rfl⟩
  have hfour : 1461 * (r100 / 1461) + r100 % 1461 = r100 := Nat.div_add_mod _ _
  have hr4 : r100 % 1461 < 1461 := Nat.mod_lt _ (by decide)
  refine ⟨day / 146097, b, r100 / 1461, d, r100 % 1461 - d * 365, hcentury.1, ?_, ?_, ?_, ?_, ?_⟩
  · omega
  · omega
  · simp only [yearAndRest, hr400, ← hb, ← hr100, ← hd]
  · omega
  · omega

/-- A day is the given number of days after the beginning of its year. -/
theorem daysBeforeYear_yearAndRest (day : Nat) :
    daysBeforeYear (yearAndRest day).1 + (yearAndRest day).2 = day := by
  obtain ⟨a, b, c, d, rest, hb, hc, hd, found, counted, -⟩ := yearAndRest_cycles day
  rw [found, daysBeforeYear_cycles hb hc hd]
  exact counted

/-- A day lies within its year. -/
theorem rest_lt_yearLength (day : Nat) :
    (yearAndRest day).2 < yearLength (yearAndRest day).1 := by
  obtain ⟨a, b, c, d, rest, hb, hc, hd, found, -, within⟩ := yearAndRest_cycles day
  rw [found]
  unfold yearLength
  rcases within with short | ⟨rfl, rfl, last⟩
  · split <;> omega
  · have leap : isLeap (400 * a + 100 * b + 4 * c + 3 + 1) = true := isLeap_iff.mpr (by omega)
    rw [if_pos leap]
    exact Nat.lt_succ_self 365

theorem year_pos (day : Nat) : 0 < (yearAndRest day).1 := by
  unfold yearAndRest
  exact Nat.succ_pos _

/-- The years of the calendar come up to the last one. -/
theorem year_le_lastYear {day : Nat} (h : day < dayCount) : (yearAndRest day).1 ≤ lastYear := by
  by_contra late
  have after : daysBeforeYear (lastYear + 1) ≤ daysBeforeYear (yearAndRest day).1 :=
    daysBeforeYear_mono (Nat.lt_of_not_le late)
  have counted := daysBeforeYear_yearAndRest day
  rw [daysBeforeYear_succ_lastYear] at after
  omega

/-! ## Months -/

/-- What lies within some months lies in one of them. -/
theorem monthAndDay_spec {lengths : List Nat} {rest : Nat} (h : rest < lengths.sum) (first : Nat) :
    ∃ i < lengths.length, ∃ d < lengths.getD i 0,
      monthAndDay first lengths rest = (first + i, d + 1) ∧ (lengths.take i).sum + d = rest := by
  induction lengths generalizing first rest with
  | nil => exact absurd h (Nat.not_lt_zero rest)
  | cons n more ih =>
    rw [monthAndDay]
    by_cases within : rest < n
    · rw [if_pos within]
      exact ⟨0, Nat.succ_pos _, rest, within, rfl, Nat.zero_add rest⟩
    · rw [if_neg within]
      rw [List.sum_cons] at h
      have less : rest - n < more.sum := by omega
      obtain ⟨i, hi, d, hd, found, counted⟩ := ih less (first + 1)
      refine ⟨i + 1, Nat.succ_lt_succ hi, d, hd, ?_, ?_⟩
      · rw [found, Nat.add_assoc, Nat.add_comm 1 i]
      · rw [List.take_succ_cons, List.sum_cons]
        omega

/-- The days before a month are the lengths of the months before it. -/
theorem daysBeforeMonth_eq (year month : Nat) :
    daysBeforeMonth year month = ((monthLengths year).take (month - 1)).sum := by
  rw [daysBeforeMonth, List.sum_eq_foldl]

/-- A month and those before it lie within the year. -/
theorem daysBeforeMonth_add_le {year month : Nat} (low : 0 < month) (high : month ≤ 12) :
    daysBeforeMonth year month + daysInMonth year month ≤ yearLength year := by
  have whole : ((monthLengths year).take month).sum ≤ (monthLengths year).sum :=
    (List.take_sublist month _).sum_le_sum fun _ _ => Nat.zero_le _
  have inside : month - 1 < (monthLengths year).length := by
    rw [length_monthLengths]
    omega
  have split : ((monthLengths year).take month).sum
      = daysBeforeMonth year month + daysInMonth year month := by
    obtain ⟨k, rfl⟩ := Nat.exists_eq_succ_of_ne_zero low.ne'
    rw [daysBeforeMonth_eq, daysInMonth, Nat.succ_sub_one] at *
    rw [List.take_succ_eq_append_getElem inside, List.sum_append, List.sum_singleton,
      List.getD_eq_getElem?_getD, List.getElem?_eq_getElem inside, Option.getD_some]
  rw [← split, ← sum_monthLengths]
  exact whole

/-! ## Dates -/

namespace Date

/-- The parts of a date lie in their ranges. -/
structure Valid (d : Date) : Prop where
  /-- The year is one of the calendar. -/
  year : 0 < d.year ∧ d.year ≤ lastYear
  /-- The month is one of the year. -/
  month : 0 < d.month ∧ d.month ≤ 12
  /-- The day is one of the month. -/
  day : 0 < d.day ∧ d.day ≤ daysInMonth d.year d.month

/-- A date whose parts lie in their ranges names a day of the calendar. -/
theorem toDay_lt {d : Date} (h : d.Valid) : d.toDay < dayCount := by
  have within : daysBeforeMonth d.year d.month + daysInMonth d.year d.month ≤ yearLength d.year :=
    daysBeforeMonth_add_le h.month.1 h.month.2
  have next := daysBeforeYear_succ h.year.1
  have last : daysBeforeYear (d.year + 1) ≤ daysBeforeYear (lastYear + 1) :=
    daysBeforeYear_mono (Nat.succ_le_succ h.year.2)
  rw [daysBeforeYear_succ_lastYear] at last
  have day := h.day
  unfold toDay
  omega

/-- The date of a day, and how its parts come about. -/
theorem ofDay_spec (day : Nat) :
    ∃ i < 12, ∃ d < daysInMonth (yearAndRest day).1 (i + 1),
      ofDay day = ⟨(yearAndRest day).1, i + 1, d + 1⟩ ∧
        daysBeforeMonth (yearAndRest day).1 (i + 1) + d = (yearAndRest day).2 := by
  have within := rest_lt_yearLength day
  rw [← sum_monthLengths] at within
  obtain ⟨i, hi, d, hd, found, counted⟩ := monthAndDay_spec within 1
  refine ⟨i, hi, d, hd, ?_, ?_⟩
  · unfold ofDay
    dsimp only
    rw [found, Nat.add_comm 1 i]
  · rw [daysBeforeMonth_eq]
    exact counted

/-- The days of the calendar have dates. -/
theorem valid_ofDay {day : Nat} (h : day < dayCount) : (ofDay day).Valid := by
  obtain ⟨i, hi, d, hd, found, -⟩ := ofDay_spec day
  rw [found]
  exact ⟨⟨year_pos day, year_le_lastYear h⟩, ⟨Nat.succ_pos i, hi⟩, ⟨Nat.succ_pos d, hd⟩⟩

/-- A day is found again by counting the days before its date. -/
theorem toDay_ofDay (day : Nat) : (ofDay day).toDay = day := by
  obtain ⟨i, -, d, -, found, counted⟩ := ofDay_spec day
  have year := daysBeforeYear_yearAndRest day
  rw [found]
  unfold toDay
  dsimp only
  omega

end Date

end Deskwork.Time
