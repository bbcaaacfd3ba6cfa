/-
# The Order of Exact Values

A finite floating-point number stands for a rational number, and comparing floating-point numbers is
comparing what they stand for (`lt_iff_of_stands`, `le_iff_atMost`). The comparison looks at the scales
first and at the digits afterwards; this is right because the digits of a number that is not very small
fill all of their places (`Dyadic.Canonical`).
-/
import Deskwork.Proofs.Number.Exact
import Mathlib.Algebra.Order.Field.Power
import Mathlib.Algebra.Order.Field.Rat
import Mathlib.Tactic.GCongr
import Mathlib.Tactic.Linarith
import Mathlib.Tactic.NormNum
import Mathlib.Tactic.Positivity
import Mathlib.Tactic.Ring

namespace Deskwork.Number

open Float.Model

/-! ## Rational values -/

namespace Dyadic

/-- The rational number that is meant. -/
def toRat (d : Dyadic) : ℚ := (if d.negative then -1 else 1) * (d.mantissa * 2 ^ d.exponent)

variable {d d' : Dyadic}

/-- Of two positive numbers, the one at the greater scale is the greater one. -/
theorem magnitude_lt_of_exponent_lt (c : d.Canonical) (c' : d'.Canonical)
    (h : d.exponent < d'.exponent) :
    (d.mantissa : ℚ) * 2 ^ d.exponent < d'.mantissa * 2 ^ d'.exponent := by
  have filled : (2 : ℚ) ^ 52 ≤ d'.mantissa := by
    exact_mod_cast c'.filled (by have := c.least; omega)
  have below : (d.mantissa : ℚ) < 2 ^ 53 := by exact_mod_cast c.below
  calc (d.mantissa : ℚ) * 2 ^ d.exponent
      < 2 ^ 53 * 2 ^ d.exponent := by gcongr
    _ = 2 ^ 52 * 2 ^ (d.exponent + 1) := by rw [zpow_add₀ two_ne_zero]; ring
    _ ≤ 2 ^ 52 * 2 ^ d'.exponent := by gcongr; exacts [one_le_two, h]
    _ ≤ d'.mantissa * 2 ^ d'.exponent := by gcongr

/-- Magnitudes are compared by their scales first, and then by their digits. -/
theorem compare_magnitudes (c : d.Canonical) (c' : d'.Canonical) :
    (compare d.exponent d'.exponent).then (compare d.mantissa d'.mantissa)
      = compare ((d.mantissa : ℚ) * 2 ^ d.exponent) (d'.mantissa * 2 ^ d'.exponent) := by
  rcases lt_trichotomy d.exponent d'.exponent with less | same | greater
  · rw [compare_lt_iff_lt.mpr less, compare_lt_iff_lt.mpr (magnitude_lt_of_exponent_lt c c' less)]
    rfl
  · have scale : (0 : ℚ) < 2 ^ d'.exponent := by positivity
    rw [compare_eq_iff_eq.mpr same, same]
    rcases lt_trichotomy d.mantissa d'.mantissa with less | same | greater
    · have less' : (d.mantissa : ℚ) * 2 ^ d'.exponent < d'.mantissa * 2 ^ d'.exponent := by gcongr
      rw [compare_lt_iff_lt.mpr less, compare_lt_iff_lt.mpr less']
      rfl
    · rw [same, compare_eq_iff_eq.mpr rfl, compare_eq_iff_eq.mpr rfl]
      rfl
    · have greater' : (d'.mantissa : ℚ) * 2 ^ d'.exponent < d.mantissa * 2 ^ d'.exponent := by gcongr
      rw [compare_gt_iff_gt.mpr greater, compare_gt_iff_gt.mpr greater']
      rfl
  · rw [compare_gt_iff_gt.mpr greater,
      compare_gt_iff_gt.mpr (magnitude_lt_of_exponent_lt c' c greater)]
    rfl

theorem toRat_of_empty (h : ¬0 < d.mantissa) : d.toRat = 0 := by
  unfold toRat
  rw [Nat.eq_zero_of_not_pos h]
  simp

theorem toRat_of_positive (h : d.negative = false) :
    d.toRat = d.mantissa * 2 ^ d.exponent := by
  unfold toRat
  rw [h]
  simp

theorem toRat_of_negative (h : d.negative = true) :
    d.toRat = -(d.mantissa * 2 ^ d.exponent) := by
  unfold toRat
  rw [h]
  simp

/-- A magnitude that has digits is positive. -/
theorem magnitude_pos (h : 0 < d.mantissa) : (0 : ℚ) < d.mantissa * 2 ^ d.exponent := by
  have digits : (0 : ℚ) < d.mantissa := by exact_mod_cast h
  positivity

/-- Taking both numbers negative turns their order round. -/
theorem compare_neg_neg (a b : ℚ) : compare (-a) (-b) = (compare a b).swap := by
  rcases lt_trichotomy a b with less | same | greater
  · rw [compare_lt_iff_lt.mpr less, compare_gt_iff_gt.mpr (neg_lt_neg less)]
    rfl
  · rw [same, compare_eq_iff_eq.mpr rfl, compare_eq_iff_eq.mpr rfl]
    rfl
  · rw [compare_gt_iff_gt.mpr greater, compare_lt_iff_lt.mpr (neg_lt_neg greater)]
    rfl

/-- Exact values are compared as the rational numbers that they are. -/
theorem compare_unpacked (c : d.Canonical) (c' : d'.Canonical) :
    (Exact.finite d).unpacked.compare (Exact.finite d').unpacked
      = some (compare d.toRat d'.toRat) := by
  by_cases digits : 0 < d.mantissa
  · have above := magnitude_pos digits
    rw [unpacked_of_digits digits]
    by_cases digits' : 0 < d'.mantissa
    · have above' := magnitude_pos digits'
      rw [unpacked_of_digits digits']
      cases sign : d.negative with
      | false =>
        rw [toRat_of_positive sign]
        cases sign' : d'.negative with
        | false =>
          rw [toRat_of_positive sign', ← compare_magnitudes c c']
          rfl
        | true =>
          rw [toRat_of_negative sign', compare_gt_iff_gt.mpr (by linarith)]
          rfl
      | true =>
        rw [toRat_of_negative sign]
        cases sign' : d'.negative with
        | false =>
          rw [toRat_of_positive sign', compare_lt_iff_lt.mpr (by linarith)]
          rfl
        | true =>
          rw [toRat_of_negative sign', compare_neg_neg, ← compare_magnitudes c c']
          rfl
    · rw [unpacked_of_empty digits', toRat_of_empty digits']
      cases sign : d.negative with
      | false =>
        rw [toRat_of_positive sign, compare_gt_iff_gt.mpr above]
        rfl
      | true =>
        rw [toRat_of_negative sign, compare_lt_iff_lt.mpr (by linarith)]
        rfl
  · rw [unpacked_of_empty digits, toRat_of_empty digits]
    by_cases digits' : 0 < d'.mantissa
    · have above' := magnitude_pos digits'
      rw [unpacked_of_digits digits']
      cases sign' : d'.negative with
      | false =>
        rw [toRat_of_positive sign', compare_lt_iff_lt.mpr above']
        rfl
      | true =>
        rw [toRat_of_negative sign', compare_gt_iff_gt.mpr (by linarith)]
        rfl
    · rw [unpacked_of_empty digits', toRat_of_empty digits', compare_eq_iff_eq.mpr rfl]
      rfl

end Dyadic

/-! ## Comparing floating-point numbers -/

/-- A floating-point number stands for a rational number. -/
def Stands (x : Float) (q : ℚ) : Prop := ∃ d, exactValue x = .finite d ∧ d.toRat = q

/-- A floating-point number stands for one number only. -/
theorem Stands.unique {x : Float} {p q : ℚ} (h : Stands x p) (h' : Stands x q) : p = q := by
  obtain ⟨d, exact, rfl⟩ := h
  obtain ⟨d', exact', rfl⟩ := h'
  cases exact.symm.trans exact'
  rfl

/-- A floating-point number is at most a rational number; an infinity is below or above them all. -/
def AtMost (x : Float) (q : ℚ) : Prop :=
  match exactValue x with
  | .nan => False
  | .infinite negative => negative = true
  | .finite d => d.toRat ≤ q

theorem AtMost.mono {x : Float} {p q : ℚ} (h : AtMost x p) (hpq : p ≤ q) : AtMost x q := by
  unfold AtMost at h ⊢
  split at h
  · exact h
  · exact h
  · exact h.trans hpq

variable {x y : Float} {p q : ℚ}

/-- A floating-point number is at most what is not below the number that it stands for. -/
theorem Stands.atMost_iff (h : Stands x p) : AtMost x q ↔ p ≤ q := by
  obtain ⟨d, exact, rfl⟩ := h
  unfold AtMost
  rw [exact]

/-- Of two floating-point numbers one is less when it stands for less. -/
theorem lt_iff_of_stands (hx : Stands x p) (hy : Stands y q) : x < y ↔ p < q := by
  obtain ⟨d, exact, rfl⟩ := hx
  obtain ⟨d', exact', rfl⟩ := hy
  show decide (x.toModel < y.toModel) = true ↔ _
  rw [decide_eq_true_iff]
  show (x.toModel.unpack.compare y.toModel.unpack == some .lt) = true ↔ _
  rw [unpack_eq, unpack_eq, exact, exact', Dyadic.compare_unpacked
    (canonical_of_exactValue exact) (canonical_of_exactValue exact')]
  rw [beq_iff_eq, Option.some.injEq, compare_lt_iff_lt]

/-- A floating-point number is at most another one when it is at most what that one stands for. -/
theorem le_iff_atMost (hy : Stands y q) : x ≤ y ↔ AtMost x q := by
  obtain ⟨d', exact', rfl⟩ := hy
  show decide (x.toModel ≤ y.toModel) = true ↔ _
  rw [decide_eq_true_iff]
  show (x.toModel.unpack.compare y.toModel.unpack).any Ordering.isLE = true ↔ _
  rw [unpack_eq, unpack_eq, exact']
  unfold AtMost
  cases exact : exactValue x with
  | nan =>
    have none : Exact.nan.unpacked.compare (Exact.finite d').unpacked = none := rfl
    rw [none]
    simp
  | infinite negative =>
    by_cases digits : 0 < d'.mantissa
    · rw [Dyadic.unpacked_of_digits digits]
      cases negative <;> exact Iff.rfl
    · rw [Dyadic.unpacked_of_empty digits]
      cases negative <;> exact Iff.rfl
  | finite d =>
    rw [Dyadic.compare_unpacked (canonical_of_exactValue exact)
      (canonical_of_exactValue exact'), Option.any_some]
    exact Ordering.isLE_iff_ne_gt.trans compare_le_iff_le

end Deskwork.Number
