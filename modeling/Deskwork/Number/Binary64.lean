/-
# Exact Values of Floating-Point Numbers

A finite floating-point number as a signed integer times a power of two, the nearest floating-point
number to a fraction, and the operations that need the exact value: whole parts and rounding to a
whole number.
-/

namespace Deskwork.Number

/-! ## Fractions of natural numbers -/

/-- The whole number nearest to `num / den`; a half goes to the even neighbour. -/
def roundHalfEven (num den : Nat) : Nat :=
  let q := num / den
  let r := num % den
  if 2 * r < den then q
  else if den < 2 * r then q + 1
  else q + q % 2

/-! ## Exact values -/

/-- The number `(-1)^negative · mantissa · 2^exponent`. -/
structure Dyadic where
  negative : Bool
  mantissa : Nat
  exponent : Int
  deriving DecidableEq, Repr

/-- What the bits of a floating-point number stand for. -/
inductive Exact where
  | nan
  | infinite (negative : Bool)
  | finite (value : Dyadic)
  deriving DecidableEq, Repr

/-- The exact value of a floating-point number, read off its bits. -/
def exactValue (x : Float) : Exact :=
  let bits := x.toBits.toNat
  let negative := bits / Nat.pow 2 63 == 1
  let scale : Nat := bits / Nat.pow 2 52 % Nat.pow 2 11
  let digits : Nat := bits % Nat.pow 2 52
  if scale = 2047 then (if digits = 0 then .infinite negative else .nan)
  else if scale = 0 then .finite ⟨negative, digits, -1074⟩
  else .finite ⟨negative, digits + Nat.pow 2 52, (scale : Int) - 1075⟩

/-- The absolute value as a fraction of natural numbers. -/
def Dyadic.ratio (d : Dyadic) : Nat × Nat :=
  if 0 ≤ d.exponent then (d.mantissa * Nat.pow 2 d.exponent.toNat, 1)
  else (d.mantissa, Nat.pow 2 (-d.exponent).toNat)

/-- A natural number with a sign. -/
def signed (negative : Bool) (n : Nat) : Int :=
  if negative then -(n : Int) else n

/-- The whole part, toward zero. -/
def Dyadic.truncate (d : Dyadic) : Int :=
  signed d.negative (d.ratio.1 / d.ratio.2)

/-- The nearest whole number; a half goes to the even neighbour. -/
def Dyadic.round (d : Dyadic) : Int :=
  signed d.negative (roundHalfEven d.ratio.1 d.ratio.2)

/-! ## The nearest floating-point number -/

/-- The bits of positive infinity. -/
def infinityBits : Nat := 2047 * Nat.pow 2 52

/-- The bits of the number nearest to `num / den`, without the sign. -/
def ratioBits (num den : Nat) : Nat :=
  if num = 0 then 0
  else
    let guess : Int := (num.log2 : Int) - den.log2 - 52
    let quotient (e : Int) : Nat × Nat :=
      if 0 ≤ e then (num, den * Nat.pow 2 e.toNat) else (num * Nat.pow 2 (-e).toNat, den)
    let low := (quotient guess).1 / (quotient guess).2 < Nat.pow 2 52
    let e := max (if low then guess - 1 else guess) (-1074)
    let q := roundHalfEven (quotient e).1 (quotient e).2
    let bits := if q < Nat.pow 2 52 then q else (e + 1074).toNat * Nat.pow 2 52 + q
    min bits infinityBits

/-- The floating-point number nearest to `num / den`; a half goes to the even neighbour, and what is
too large becomes infinite. -/
def ofRatio (negative : Bool) (num den : Nat) : Float :=
  Float.ofBits (UInt64.ofNat (ratioBits num den + if negative then Nat.pow 2 63 else 0))

/-- The floating-point number nearest to a whole number. -/
def ofInt (n : Int) : Float :=
  ofRatio (n < 0) n.natAbs 1

/-! ## Infinities and no number -/

/-- Positive infinity. -/
def infinity : Float := Float.ofBits (UInt64.ofNat infinityBits)

/-- Negative infinity. -/
def negativeInfinity : Float := Float.ofBits (UInt64.ofNat (infinityBits + Nat.pow 2 63))

/-- The value that is no number. -/
def nan : Float := Float.ofBits (UInt64.ofNat (infinityBits + Nat.pow 2 51))

/-! ## Faults of conversions -/

/-- Why a conversion between numbers has no result. -/
inductive ConversionFault where
  | tooLarge
  | infinite
  | notANumber
  deriving DecidableEq, Repr

/-- The wording of a fault of conversion. -/
def ConversionFault.message : ConversionFault → String
  | .tooLarge => "int too large to convert to float"
  | .infinite => "cannot convert float infinity to integer"
  | .notANumber => "cannot convert float NaN to integer"

/-- The whole part of a floating-point number, toward zero. -/
def truncate? (x : Float) : Except ConversionFault Int :=
  match exactValue x with
  | .nan => .error .notANumber
  | .infinite _ => .error .infinite
  | .finite d => .ok d.truncate

/-- The floating-point number nearest to a whole number, unless that would be infinite. -/
def ofInt? (n : Int) : Except ConversionFault Float :=
  if ratioBits n.natAbs 1 = infinityBits then .error .tooLarge else .ok (ofInt n)

/-! ## The part after the point -/

/-- What exceeds the greatest whole number below: at least zero, and at most one after rounding. -/
def fraction (x : Float) : Float :=
  match exactValue x with
  | .finite d =>
    let (num, den) := d.ratio
    let part := ofRatio false (num % den) den
    if d.negative && num % den != 0 then 1.0 - part else part
  | _ => nan

/-- One half, exactly. -/
example : exactValue 0.5 = .finite ⟨false, Nat.pow 2 52, -53⟩ := by decide +kernel

/-- A very small negative number exceeds the whole number below by one, after rounding. -/
example : fraction (-1e-20) = 1.0 := by decide +kernel

end Deskwork.Number
