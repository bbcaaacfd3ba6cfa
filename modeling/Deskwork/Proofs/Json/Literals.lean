/-
# Reading Back Numbers and Texts

A whole number that is written in decimal digits is read back, whatever follows it that cannot go on a
number (`readNumber_intText`), and a quoted text is read back up to its closing quote, whatever follows
(`readQuoted_writeChars`): each character of the text is read back from its escaped form.
-/
import Deskwork.Json.Printer
import Deskwork.Json.Reader
import Mathlib.Algebra.Group.Nat.Defs
import Mathlib.Tactic.SplitIfs

namespace Deskwork.Json

open Deskwork.Text Deskwork.Number

/-! ## Decimal digits -/

/-- The digits of a number are digits. -/
theorem isDigit_of_mem_decimalChars {n : Nat} {c : Char} (h : c ∈ decimalChars n) :
    isDigit c = true :=
  Nat.isDigit_of_mem_toDigits (by decide) (by decide) h

/-- The digits of a number make up the number. -/
@[simp]
theorem digitsValue_decimalChars (n : Nat) : digitsValue (decimalChars n) = n := by
  have value : digitsValue (decimalChars n) = Nat.ofDigitChars 10 (decimalChars n) 0 := by
    simp only [digitsValue, ofDigits, Nat.ofDigitChars, List.foldl_map, Nat.mul_comm 10]
    rfl
  rw [value]
  exact Nat.ofDigitChars_ten_toDigits

/-- A number below a power of ten has no more digits than the exponent says. -/
theorem length_decimalChars_le {n k : Nat} (hk : 0 < k) (h : n < 10 ^ k) :
    (decimalChars n).length ≤ k :=
  (Nat.length_toDigits_le_iff (by decide) hk).mpr h

/-- The first digit of a number is zero only in zero itself. -/
theorem decimalChars_eq_cons (n : Nat) :
    ∃ c cs, decimalChars n = c :: cs ∧ (c = '0' → n = 0) := by
  induction n using Nat.base_induction 10 (by decide) with
  | single d hd =>
    refine ⟨d.digitChar, [], Nat.toDigits_of_lt_base hd, ?_⟩
    revert d
    decide
  | digit n d hd hn ih =>
    obtain ⟨c, cs, front, zero⟩ := ih
    refine ⟨c, cs ++ decimalChars d, ?_, fun h => absurd (zero h) (Nat.ne_of_gt hn)⟩
    have split := Nat.toDigits_append_toDigits (b := 10) (by decide) hn hd
    rw [decimalChars, ← split]
    exact congrArg (· ++ decimalChars d) front

/-! ## Numbers -/

/-- What follows cannot go on a number. -/
def EndsNumber (rest : List Char) : Prop :=
  ∀ c, rest.head? = some c → isDigit c = false ∧ c ≠ '.' ∧ c ≠ 'e' ∧ c ≠ 'E'

/-- The digits at the front are all of the digits, when no digit follows. -/
theorem digitsFront_append {ds rest : List Char} (digits : ∀ c ∈ ds, isDigit c = true)
    (ends : EndsNumber rest) : digitsFront (ds ++ rest) = (ds, rest) := by
  have stop : rest.takeWhile isDigit = [] ∧ rest.dropWhile isDigit = rest := by
    cases rest with
    | nil => exact ⟨rfl, rfl⟩
    | cons c rest =>
      simp [(ends c rfl).1]
  simp only [digitsFront, List.takeWhile_append_of_pos digits, List.dropWhile_append_of_pos digits,
    stop, List.append_nil]

/-- The digits of a number are read as its whole digits. -/
theorem readWhole_decimalChars (n : Nat) {rest : List Char} (ends : EndsNumber rest) :
    readWhole (decimalChars n ++ rest) = (decimalChars n, rest) := by
  obtain ⟨c, cs, front, zero⟩ := decimalChars_eq_cons n
  by_cases hc : c = '0'
  · obtain rfl := zero hc
    rfl
  · rw [front, List.cons_append, readWhole]
    · rw [← List.cons_append, ← front]
      exact digitsFront_append (fun c h => isDigit_of_mem_decimalChars h) ends
    · rintro _ h
      exact hc (List.cons.inj h).1

/-- No places follow a number that has ended. -/
theorem readPlaces_of_ends {rest : List Char} (ends : EndsNumber rest) :
    readPlaces rest = ([], rest) := by
  cases rest with
  | nil => rfl
  | cons c rest =>
    rw [readPlaces]
    rintro _ h
    exact (ends c rfl).2.1 (List.cons.inj h).1

/-- No exponent follows a number that has ended. -/
theorem readExponent_of_ends {rest : List Char} (ends : EndsNumber rest) :
    readExponent rest = (none, rest) := by
  cases rest with
  | nil => rfl
  | cons c rest =>
    obtain ⟨-, -, small, large⟩ := ends c rfl
    simp [readExponent, small, large]

/-- A whole number is read back from its digits. -/
theorem readNumber_intText {n : Int} (short : n.natAbs < 10 ^ digitLimit) {rest : List Char}
    (ends : EndsNumber rest) :
    readNumber ((intText n).toList ++ rest) = .ok (.int n, rest) := by
  obtain ⟨c, cs, front, -⟩ := decimalChars_eq_cons n.natAbs
  have noSign : c ≠ '-' := by
    rintro rfl
    cases isDigit_of_mem_decimalChars (front ▸ List.mem_cons_self : '-' ∈ decimalChars n.natAbs)
  have read := readWhole_decimalChars n.natAbs ends
  have value := digitsValue_decimalChars n.natAbs
  have fits : (decimalChars n.natAbs).length ≤ digitLimit :=
    length_decimalChars_le (by decide) short
  rw [front] at read value fits
  have written : (intText n).toList ++ rest
      = if n < 0 then '-' :: (c :: cs ++ rest) else c :: cs ++ rest := by
    split_ifs with negative <;> simp [intText, signChars, negative, front]
  simp only [List.cons_append, List.length_cons] at read fits written
  rw [written]
  -- The sign is passed over, and what follows the digits is no part of a number.
  split_ifs with negative
  · have same : signed true n.natAbs = n := by
      simp only [signed, if_true]
      omega
    simp [readNumber, read, readPlaces_of_ends ends, readExponent_of_ends ends,
      Nat.not_lt.mpr fits, value, same]
  · have same : signed false n.natAbs = n := by
      simp only [signed, Bool.false_eq_true, if_false]
      omega
    simp [readNumber, noSign, read, readPlaces_of_ends ends, readExponent_of_ends ends,
      Nat.not_lt.mpr fits, value, same]

/-! ## Quoted texts -/

/-- The four hexadecimal digits of a control character stand for it. -/
theorem hexFour_hexDigits : ∀ n, n < 0x20 →
    ∃ a b c d, hexDigits 4 n = [a, b, c, d] ∧ hexFour? a b c d = some n := by
  have all : ∀ n, n < 0x20 → hexFour? (hexDigit (n / 16 / 16 / 16 % 16))
      (hexDigit (n / 16 / 16 % 16)) (hexDigit (n / 16 % 16)) (hexDigit (n % 16)) = some n := by decide
  exact fun n small => ⟨_, _, _, _, rfl, all n small⟩

/-- A control character is read back from its numbered escape. -/
theorem readChars_numbered {c : Char} (control : c.toNat < 0x20) (opening : Nat) {tail : List Char}
    (more : tail ≠ []) :
    readChars opening none ('\\' :: 'u' :: (hexDigits 4 c.toNat ++ tail))
      = consRead c (readChars opening none tail) := by
  obtain ⟨h₁, h₂, h₃, h₄, digits, value⟩ := hexFour_hexDigits c.toNat control
  have noHigh : isHighUnit c.toNat = false := by
    simp only [isHighUnit, Bool.and_eq_false_iff, decide_eq_false_iff_not]
    omega
  have noLow : isLowUnit c.toNat = false := by
    simp only [isLowUnit, Bool.and_eq_false_iff, decide_eq_false_iff_not]
    omega
  have unit : unitChar c.toNat = c := by
    rw [unitChar, noHigh, noLow]
    exact Char.ofNat_toNat c
  simp only [digits, List.cons_append, List.nil_append]
  simp [readChars, value, List.isEmpty_eq_false_iff.mpr more, noHigh, unit]

/-- A character is read back from its escaped form. -/
theorem readChars_escapeChar (c : Char) (opening : Nat) {tail : List Char} (more : tail ≠ []) :
    readChars opening none (escapeChar c ++ tail) = consRead c (readChars opening none tail) := by
  unfold escapeChar
  split_ifs with quote backslash newline carriage tab backspace page control
  · subst quote
    rfl
  · subst backslash
    rfl
  · subst newline
    rfl
  · subst carriage
    rfl
  · subst tab
    rfl
  · subst backspace
    rfl
  · subst page
    rfl
  · exact readChars_numbered control opening more
  · rw [List.singleton_append, readChars]
    · rw [if_neg control]
      rfl
    · exact quote
    · exact backslash

/-- The characters of a text are read back up to the closing quote. -/
theorem readChars_flatMap (opening : Nat) (cs rest : List Char) :
    readChars opening none (cs.flatMap escapeChar ++ '"' :: rest) = .ok (cs, rest) := by
  induction cs with
  | nil => rfl
  | cons c cs ih =>
    rw [List.flatMap_cons, List.append_assoc, readChars_escapeChar c opening (by simp), ih]
    rfl

/-- A quoted text is read back. -/
theorem readQuoted_writeChars (s : String) (rest : List Char) :
    ∃ cs, writeChars s.toList ++ rest = '"' :: cs ∧ readQuoted cs = .ok (s, rest) := by
  refine ⟨s.toList.flatMap escapeChar ++ '"' :: rest, by simp [writeChars], ?_⟩
  rw [readQuoted, readChars_flatMap]
  simp [Except.map]

end Deskwork.Json
