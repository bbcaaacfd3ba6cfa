/-
# Shortest Decimal Digits

The fewest decimal digits that read back as a given floating-point number, and of those the nearest
to its exact value.
-/
import Deskwork.Number.Binary64

namespace Deskwork.Number

/-! ## Decimals -/

/-- The positive number `digits · 10^exponent`. -/
structure Decimal where
  digits : Nat
  /-- The place of the last digit. -/
  exponent : Int
  deriving DecidableEq, Repr

/-- The digits of a number in ASCII. -/
def decimalChars (n : Nat) : List Char :=
  Nat.toDigits 10 n

/-- The place of the first digit of `num / den`: the exponent of the power of ten below it. -/
def leadingPlace (num den : Nat) : Int :=
  if den ≤ num then (decimalChars (num / den)).length - 1
  else
    let k := (decimalChars (den / num)).length
    if den = num * Nat.pow 10 (k - 1) then -((k : Int) - 1) else -(k : Int)

/-- The quotient of `num / den` by a power of ten, as a fraction. -/
def inUnits (num den : Nat) (place : Int) : Nat × Nat :=
  if 0 ≤ place then (num, den * Nat.pow 10 place.toNat) else (num * Nat.pow 10 (-place).toNat, den)

/-- The value of a decimal as a fraction. -/
def Decimal.ratio (d : Decimal) : Nat × Nat :=
  if 0 ≤ d.exponent then (d.digits * Nat.pow 10 d.exponent.toNat, 1)
  else (d.digits, Nat.pow 10 (-d.exponent).toNat)

/-- A decimal reads back as the number whose bits, without the sign, are given. -/
def Decimal.readsAs (d : Decimal) (bits : Nat) : Bool :=
  ratioBits d.ratio.1 d.ratio.2 == bits

/-! ## The search -/

/-- The neighbours of `num / den` among the decimals of `count` digits that read back as the number
with the given bits, the nearer first; of two equally near ones the even first. -/
def neighbours (num den bits count : Nat) : List Decimal :=
  let place := leadingPlace num den - (count : Int) + 1
  let (n, m) := inUnits num den place
  let below := n / m
  let rest := n % m
  let aboveFirst := m < 2 * rest || (m == 2 * rest && below % 2 == 1)
  let found := [⟨below, place⟩, ⟨below + 1, place⟩].filter (Decimal.readsAs · bits)
  if aboveFirst then found.reverse else found

/-- The shortest decimal that reads back; seventeen digits always do. -/
def shortest (num den bits : Nat) : Decimal :=
  match (List.range 17).findSome? fun i => (neighbours num den bits (i + 1)).head? with
  | some d => d
  | none =>
    let place := leadingPlace num den - 16
    ⟨(inUnits num den place).1 / (inUnits num den place).2, place⟩

/-- The decimal of `count` digits nearest to `num / den`; a half goes to the even neighbour. -/
def rounded (num den count : Nat) : Decimal :=
  let place := leadingPlace num den - (count : Int) + 1
  let (n, m) := inUnits num den place
  ⟨roundHalfEven n m, place⟩

/-- One tenth needs one digit. -/
example : shortest (Nat.pow 2 52 + 2702159776422298) (Nat.pow 2 56) (ratioBits 1 10) = ⟨1, -1⟩ := by
  decide +kernel

end Deskwork.Number
