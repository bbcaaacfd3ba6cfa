/-
# Exact Values, Zero, Whole Parts and Numerals

A floating-point number unpacks to its exact value (`unpack_eq`), which is written canonically. Facts about
the exact values of numbers that are read: what compares equal to zero is exactly zero, so that an infinity
never does (`exactValue_of_beq_zero`), and neither the whole part of a floating-point
number nor a numeral has more digits than a numeral may have (`natAbs_lt_of_truncate`,
`natAbs_lt_of_readInt`).
-/
import Deskwork.Number.Numeral
import Mathlib.Data.List.Induction
import Mathlib.Tactic.NormNum
import Mathlib.Tactic.Set
import Mathlib.Tactic.SplitIfs

namespace Deskwork.Number

open Float.Model

/-! ## Unpacking -/

/-- A sign as it is unpacked. -/
def signOf (negative : Bool) : UnpackedFloat.Sign := if negative then .negative else .positive

/-- An exact value as it is unpacked. -/
def Exact.unpacked : Exact → UnpackedFloat
  | .nan => .notANumber
  | .infinite negative => .infinity (signOf negative)
  | .finite d =>
    if h : 0 < d.mantissa then .finite (signOf d.negative) d.mantissa d.exponent h
    else .zero (signOf d.negative)

/-- A number with digits is unpacked with them, and any other one is a zero. -/
theorem Dyadic.unpacked_of_digits {d : Dyadic} (h : 0 < d.mantissa) :
    (Exact.finite d).unpacked = .finite (signOf d.negative) d.mantissa d.exponent h := dif_pos h

theorem Dyadic.unpacked_of_empty {d : Dyadic} (h : ¬0 < d.mantissa) :
    (Exact.finite d).unpacked = .zero (signOf d.negative) := dif_neg h

theorem toNat_unpackExponent (x : Float) :
    (@UnpackedFloat.unpackExponent Format.binary64 x.toModel.toBits.toBitVec).toNat
      = x.toBits.toNat / Nat.pow 2 52 % Nat.pow 2 11 := by
  delta Float.toBits UnpackedFloat.unpackExponent
  simp [Nat.shiftRight_eq_div_pow]

theorem toNat_unpackMantissa (x : Float) :
    (@UnpackedFloat.unpackMantissa Format.binary64 x.toModel.toBits.toBitVec).toNat
      = x.toBits.toNat % Nat.pow 2 52 := by
  delta Float.toBits UnpackedFloat.unpackMantissa
  simp

theorem ofBitVec_unpackSign (x : Float) :
    UnpackedFloat.Sign.ofBitVec (@UnpackedFloat.unpackSign Format.binary64 x.toModel.toBits.toBitVec)
      = signOf (x.toBits.toNat / Nat.pow 2 63 == 1) := by
  delta Float.toBits UnpackedFloat.unpackSign
  have bit : BitVec.extractLsb 63 63 x.toModel.toBits.toBitVec = 0#1
      ↔ ¬ x.toModel.toBits.toNat / 9223372036854775808 = 1 := by
    have below := x.toModel.toBits.toNat_lt
    rw [← BitVec.toNat_inj]
    simp [Nat.shiftRight_eq_div_pow]
    omega
  simp [UnpackedFloat.Sign.ofBitVec, signOf, bit]

/-- What a floating-point number unpacks to is its exact value. -/
theorem unpack_eq (x : Float) : x.toModel.unpack = (exactValue x).unpacked := by
  delta Float.Model.unpack UnpackedFloat.unpack
  dsimp only
  unfold exactValue
  dsimp only
  rw [ofBitVec_unpackSign, ← toNat_unpackExponent, ← toNat_unpackMantissa]
  generalize (x.toBits.toNat / Nat.pow 2 63 == 1) = negative
  set scale : BitVec 11 := @UnpackedFloat.unpackExponent Format.binary64 x.toModel.toBits.toBitVec
  set digits : BitVec 52 := @UnpackedFloat.unpackMantissa Format.binary64 x.toModel.toBits.toBitVec
  have special : scale = -1#11 ↔ scale.toNat = 2047 := by
    rw [← BitVec.toNat_inj]
    rfl
  have noScale : scale = 0#11 ↔ scale.toNat = 0 := by
    rw [← BitVec.toNat_inj]
    rfl
  have noDigits : digits = 0#52 ↔ digits.toNat = 0 := by
    rw [← BitVec.toNat_inj]
    rfl
  by_cases full : scale.toNat = 2047
  · rw [if_pos (special.mpr full), if_pos full]
    by_cases none : digits.toNat = 0
    · rw [if_pos (noDigits.mpr none), if_pos none]
      rfl
    · rw [if_neg (mt noDigits.mp none), if_neg none]
      rfl
  · rw [if_neg (mt special.mp full), if_neg full]
    by_cases small : scale.toNat = 0
    · rw [if_pos (noScale.mpr small), if_pos small]
      by_cases none : digits.toNat = 0
      · rw [dif_pos (noDigits.mpr none), Dyadic.unpacked_of_empty (Nat.not_lt.mpr (Nat.le_of_eq none))]
      · rw [dif_neg (mt noDigits.mp none), Dyadic.unpacked_of_digits (Nat.pos_of_ne_zero none)]
        rw [small]
        rfl
    · rw [if_neg (mt noScale.mp small), if_neg small]
      -- the first digit is not written, and it is put in front as a bit
      have whole : (1#1 ++ digits).toNat = digits.toNat + Nat.pow 2 52 := by
        show 2 ^ 52 ||| digits.toNat = _
        rw [Nat.or_comm, Nat.or_two_pow_eq_add_of_lt digits.isLt]
      rw [Dyadic.unpacked_of_digits (Nat.add_pos_right _ (by decide)), UnpackedFloat.finite.injEq]
      exact ⟨rfl, whole, rfl⟩

/-- The digits have no more places than there are, and unless the number is very small they fill all of
them. -/
structure Dyadic.Canonical (d : Dyadic) : Prop where
  /-- There are 53 places. -/
  below : d.mantissa < 2 ^ 53
  /-- The scale is not below the least one. -/
  least : -1074 ≤ d.exponent
  /-- The scale is not above the greatest one. -/
  greatest : d.exponent ≤ 971
  /-- Only at the least scale the first place may be empty. -/
  filled : d.exponent ≠ -1074 → 2 ^ 52 ≤ d.mantissa

/-- What a floating-point number stands for is written canonically. -/
theorem canonical_of_exactValue {x : Float} {d : Dyadic} (h : exactValue x = .finite d) :
    d.Canonical := by
  have digits : x.toBits.toNat % Nat.pow 2 52 < Nat.pow 2 52 := Nat.mod_lt _ (by decide)
  have scale : x.toBits.toNat / Nat.pow 2 52 % Nat.pow 2 11 < Nat.pow 2 11 :=
    Nat.mod_lt _ (by decide)
  simp only [exactValue] at h
  generalize x.toBits.toNat / Nat.pow 2 52 % Nat.pow 2 11 = s at scale h
  generalize x.toBits.toNat % Nat.pow 2 52 = m at digits h
  norm_num at digits scale
  split_ifs at h with special small
  all_goals
    cases h
    constructor <;> norm_num <;> omega

/-! ## Zero -/

/-- Among unpacked numbers only the zeros compare equal to a zero. -/
theorem eq_zero_of_compare {u : UnpackedFloat} {s : UnpackedFloat.Sign}
    (h : u.compare (.zero s) = some .eq) : ∃ s', u = .zero s' := by
  cases u with
  | zero s' => exact ⟨s', rfl⟩
  | notANumber => cases h
  | infinity s' => cases s' <;> cases h
  | finite s' m e hm => cases s' <;> cases h

/-- What unpacks to a zero has no digits. -/
theorem exactValue_of_unpack {x : Float} {s : UnpackedFloat.Sign}
    (h : x.toModel.unpack = .zero s) : ∃ negative, exactValue x = .finite ⟨negative, 0, -1074⟩ := by
  rw [unpack_eq] at h
  cases exact : exactValue x with
  | nan =>
    rw [exact] at h
    cases h
  | infinite negative =>
    rw [exact] at h
    cases h
  | finite d =>
    have empty : ¬0 < d.mantissa := by
      intro digits
      rw [exact, Dyadic.unpacked_of_digits digits] at h
      cases h
    have scale : d.exponent = -1074 := by
      by_contra other
      exact empty (Nat.two_pow_pos 52 |>.trans_le ((canonical_of_exactValue exact).filled other))
    obtain ⟨negative, mantissa, exponent⟩ := d
    obtain rfl : mantissa = 0 := Nat.eq_zero_of_not_pos empty
    obtain rfl : exponent = -1074 := scale
    exact ⟨negative, rfl⟩

/-- What compares equal to zero is exactly zero. -/
theorem exactValue_of_beq_zero {x : Float} (h : (x == 0.0) = true) :
    ∃ negative, exactValue x = .finite ⟨negative, 0, -1074⟩ := by
  have compared : (x.toModel.unpack.compare (.zero .positive) == some .eq) = true := h
  obtain ⟨s, unpacked⟩ := eq_zero_of_compare (beq_iff_eq.mp compared)
  exact exactValue_of_unpack unpacked

/-! ## Whole parts -/

/-- The absolute value of a signed number. -/
@[simp]
theorem natAbs_signed (negative : Bool) (n : Nat) : (signed negative n).natAbs = n := by
  cases negative <;> simp [signed]

/-- The whole part of a number whose mantissa and exponent are bounded. -/
theorem Dyadic.natAbs_truncate_lt {d : Dyadic} {a b k : Nat} (mantissa : d.mantissa < 2 ^ a)
    (exponent : d.exponent ≤ b) (room : a + b ≤ k) : d.truncate.natAbs < 10 ^ k := by
  have above : d.ratio.1 < 2 ^ (a + b) := by
    unfold Dyadic.ratio
    split_ifs with whole
    · calc d.mantissa * 2 ^ d.exponent.toNat
          < 2 ^ a * 2 ^ b :=
            Nat.mul_lt_mul_of_lt_of_le mantissa
              (Nat.pow_le_pow_right Nat.two_pos (Int.toNat_le.mpr exponent)) (Nat.two_pow_pos b)
        _ = 2 ^ (a + b) := (Nat.pow_add 2 a b).symm
    · exact mantissa.trans_le (Nat.pow_le_pow_right Nat.two_pos (Nat.le_add_right a b))
  calc d.truncate.natAbs
      = d.ratio.1 / d.ratio.2 := natAbs_signed _ _
    _ ≤ d.ratio.1 := Nat.div_le_self _ _
    _ < 2 ^ (a + b) := above
    _ ≤ 2 ^ k := Nat.pow_le_pow_right Nat.two_pos room
    _ ≤ 10 ^ k := Nat.pow_le_pow_left (by decide) k

/-- The greatest number of digits is more than any whole part has. -/
theorem natAbs_lt_of_truncate {x : Float} {n : Int} (h : truncate? x = .ok n) :
    n.natAbs < 10 ^ digitLimit := by
  unfold truncate? at h
  split at h
  case h_3 d exact =>
    cases h
    have canonical := canonical_of_exactValue exact
    exact Dyadic.natAbs_truncate_lt canonical.below canonical.greatest (by decide)
  all_goals cases h

/-! ## Numerals -/

open Deskwork.Text

/-- A number has no more digits than were written. -/
theorem ofDigits_lt {ds : List Nat} (h : ∀ d ∈ ds, d < 10) : ofDigits ds < 10 ^ ds.length := by
  induction ds using List.reverseRecOn with
  | nil => decide
  | append_singleton ds d ih =>
    have front := ih fun d' mem => h d' (List.mem_append_left _ mem)
    have last := h d (by simp)
    have whole : ofDigits (ds ++ [d]) = ofDigits ds * 10 + d := by
      simp [ofDigits, List.foldl_append]
    rw [whole, List.length_append, List.length_singleton, Nat.pow_succ]
    omega

/-- The value of a digit is below ten. -/
theorem digitValue?_lt {c : Char} {d : Nat} (h : digitValue? c = some d) : d < 10 := by
  obtain ⟨first, found, rfl⟩ := Option.map_eq_some_iff.mp h
  have between := List.find?_some found
  simp only [Bool.and_eq_true, decide_eq_true_eq] at between
  omega

/-- The digits of a numeral are below ten. -/
theorem lt_of_mem_digitsAfter {cs : List Char} : ∀ d ∈ (digitsAfter cs).1, d < 10 := by
  fun_induction digitsAfter cs with
  | case1 => simp
  | case2 c rest d digit ih =>
    intro d' mem
    rcases List.mem_cons.mp mem with rfl | mem
    · exact digitValue?_lt digit
    · exact ih d' mem
  | case3 c rest _ _ ih => exact ih
  | case4 => simp

/-- A numeral has no more digits than are allowed. -/
theorem natAbs_lt_of_readInt {s : String} {n : Int} (h : readInt s = .ok n) :
    n.natAbs < 10 ^ digitLimit := by
  unfold readInt at h
  dsimp only at h
  split_ifs at h with noDigits long whole
  cases h
  have digits : ∀ cs, ∀ d ∈ (takeDigits cs).1, d < 10 := by
    intro cs d mem
    unfold takeDigits at mem
    split_ifs at mem
    · exact lt_of_mem_digitsAfter d mem
    · cases mem
  rw [natAbs_signed]
  exact (ofDigits_lt (digits _)).trans_le
    (Nat.pow_le_pow_right (by decide) (Nat.le_of_not_lt long))

end Deskwork.Number
