/-
# Decoding What Was Encoded

The bytes of a text are the text again (`decode_encode`). A character of one to four bytes is decoded
by the branch for its length, in which none of the refusals applies to the bytes that encoding makes.
-/
import Deskwork.Text.Utf8
import Mathlib.Tactic.SplitIfs

namespace Deskwork.Text

/-! ## Bytes -/

@[simp]
theorem toNat_tailByte (n : Nat) : (tailByte n).toNat = 0x80 + n % 0x40 := by
  simp only [tailByte, UInt8.toNat_ofNat']
  omega

/-- A byte made for the end of a character continues it. -/
@[simp]
theorem isTail_tailByte (n : Nat) : isTail (tailByte n) = true := by
  have value := toNat_tailByte n
  simp only [isTail, Bool.and_eq_true, decide_eq_true_eq]
  omega

/-- A byte made for the end of a character holds six bits. -/
@[simp]
theorem tailBits_tailByte (n : Nat) : tailBits (tailByte n) = n % 0x40 := by
  have value := toNat_tailByte n
  unfold tailBits
  omega

/-- The first byte of a character. -/
theorem toNat_first {n : Nat} (h : n < 0x100) : (UInt8.ofNat n).toNat = n := by
  rw [UInt8.toNat_ofNat']
  omega

/-- A second byte is only restricted in the characters that begin with one of four bytes. -/
theorem isSecond_tailByte {a : UInt8} {n : Nat} (overlong₃ : a.toNat = 0xE0 → 0x20 ≤ n % 0x40)
    (surrogate : a.toNat = 0xED → n % 0x40 < 0x20) (overlong₄ : a.toNat = 0xF0 → 0x10 ≤ n % 0x40)
    (beyond : a.toNat = 0xF4 → n % 0x40 < 0x10) : isSecond a (tailByte n) = true := by
  simp only [isSecond, isTail_tailByte, toNat_tailByte, Bool.true_and, Bool.and_eq_true,
    Bool.not_eq_true', Bool.and_eq_false_iff, beq_eq_false_iff_ne, decide_eq_false_iff_not]
  omega

/-! ## Characters by their length -/

section Lengths

variable {a b c d : UInt8} (position : Nat) (rest : Bytes)

/-- A character of one byte. -/
theorem decodeFrom_one (ha : a.toNat < 0x80) :
    decodeFrom position (a :: rest)
      = (decodeFrom (position + 1) rest).map (Char.ofNat a.toNat :: ·) := by
  rw [decodeFrom.eq_def]
  simp only [ha, if_true]

/-- A character of two bytes. -/
theorem decodeFrom_two (low : 0xC2 ≤ a.toNat) (high : a.toNat < 0xE0) (hb : isSecond a b = true) :
    decodeFrom position (a :: b :: rest)
      = (decodeFrom (position + 2) rest).map
          (Char.ofNat ((a.toNat - 0xC0) * 0x40 + tailBits b) :: ·) := by
  have start : (decide (a.toNat < 0xC2) || decide (0xF4 < a.toNat)) = false := by
    simp only [Bool.or_eq_false_iff, decide_eq_false_iff_not]
    omega
  rw [decodeFrom.eq_def]
  simp only [if_neg (show ¬a.toNat < 0x80 by omega), start, hb, high, if_true, Bool.not_true,
    Bool.false_eq_true, if_false]

/-- A character of three bytes. -/
theorem decodeFrom_three (low : 0xE0 ≤ a.toNat) (high : a.toNat < 0xF0)
    (hb : isSecond a b = true) (hc : isTail c = true) :
    decodeFrom position (a :: b :: c :: rest)
      = (decodeFrom (position + 3) rest).map
          (Char.ofNat ((a.toNat - 0xE0) * 0x1000 + tailBits b * 0x40 + tailBits c) :: ·) := by
  have start : (decide (a.toNat < 0xC2) || decide (0xF4 < a.toNat)) = false := by
    simp only [Bool.or_eq_false_iff, decide_eq_false_iff_not]
    omega
  rw [decodeFrom.eq_def]
  simp only [if_neg (show ¬a.toNat < 0x80 by omega), if_neg (show ¬a.toNat < 0xE0 by omega), start,
    hb, hc, high, if_true, Bool.not_true, Bool.false_eq_true, if_false]

/-- A character of four bytes. -/
theorem decodeFrom_four (low : 0xF0 ≤ a.toNat) (high : a.toNat ≤ 0xF4)
    (hb : isSecond a b = true) (hc : isTail c = true) (hd : isTail d = true) :
    decodeFrom position (a :: b :: c :: d :: rest)
      = (decodeFrom (position + 4) rest).map
          (Char.ofNat ((a.toNat - 0xF0) * 0x40000 + tailBits b * 0x1000 + tailBits c * 0x40
            + tailBits d) :: ·) := by
  have start : (decide (a.toNat < 0xC2) || decide (0xF4 < a.toNat)) = false := by
    simp only [Bool.or_eq_false_iff, decide_eq_false_iff_not]
    omega
  rw [decodeFrom.eq_def]
  simp only [if_neg (show ¬a.toNat < 0x80 by omega), if_neg (show ¬a.toNat < 0xE0 by omega),
    if_neg (show ¬a.toNat < 0xF0 by omega), start, hb, hc, hd, Bool.not_true,
    Bool.false_eq_true, if_false]

end Lengths

/-! ## Characters and texts -/

/-- A character is no surrogate and not beyond the last plane. -/
theorem toNat_valid (c : Char) : c.toNat < 0xD800 ∨ 0xDFFF < c.toNat ∧ c.toNat < 0x110000 :=
  c.valid

/-- The bytes of a character are decoded as the character. -/
theorem decodeFrom_encodeChar (c : Char) (rest : Bytes) (position : Nat) :
    decodeFrom position (encodeChar c ++ rest)
      = (decodeFrom (position + (encodeChar c).length) rest).map (c :: ·) := by
  have valid := toNat_valid c
  have back {n : Nat} (h : n = c.toNat) : Char.ofNat n = c := h ▸ Char.ofNat_toNat c
  simp only [encodeChar]
  split_ifs with one two three
  · have first : (UInt8.ofNat c.toNat).toNat = c.toNat := toNat_first (by omega)
    rw [List.singleton_append, decodeFrom_one _ _ (by omega), back first]
    rfl
  · have first : (UInt8.ofNat (0xC0 + c.toNat / 0x40)).toNat = 0xC0 + c.toNat / 0x40 :=
      toNat_first (by omega)
    rw [List.cons_append, List.singleton_append, decodeFrom_two _ _ (by omega) (by omega)
      (isSecond_tailByte (by omega) (by omega) (by omega) (by omega)), tailBits_tailByte, first,
      back (by omega)]
    rfl
  · have first : (UInt8.ofNat (0xE0 + c.toNat / 0x1000)).toNat = 0xE0 + c.toNat / 0x1000 :=
      toNat_first (by omega)
    rw [List.cons_append, List.cons_append, List.singleton_append,
      decodeFrom_three _ _ (by omega) (by omega)
        (isSecond_tailByte (by omega) (by omega) (by omega) (by omega)) (isTail_tailByte _),
      tailBits_tailByte, tailBits_tailByte, first, back (by omega)]
    rfl
  · have first : (UInt8.ofNat (0xF0 + c.toNat / 0x40000)).toNat = 0xF0 + c.toNat / 0x40000 :=
      toNat_first (by omega)
    rw [List.cons_append, List.cons_append, List.cons_append, List.singleton_append,
      decodeFrom_four _ _ (by omega) (by omega)
        (isSecond_tailByte (by omega) (by omega) (by omega) (by omega)) (isTail_tailByte _)
        (isTail_tailByte _),
      tailBits_tailByte, tailBits_tailByte, tailBits_tailByte, first, back (by omega)]
    rfl

/-- The bytes of a text are decoded as the text. -/
theorem decode_encode (s : String) : decode (encode s) = .ok s := by
  have characters (cs : List Char) (position : Nat) :
      decodeFrom position (cs.flatMap encodeChar) = .ok cs := by
    induction cs generalizing position with
    | nil => rfl
    | cons c cs ih =>
      rw [List.flatMap_cons, decodeFrom_encodeChar, ih]
      rfl
  simp [decode, encode, characters, Except.map]

end Deskwork.Text
