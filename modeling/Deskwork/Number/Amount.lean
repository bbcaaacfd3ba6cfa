/-
# Amounts

Amounts that are given either as whole or as floating-point numbers, and that are shown as they were
given.
-/
import Deskwork.Number.Notation

namespace Deskwork.Number

/-- An amount. -/
inductive Amount where
  | whole (n : Int)
  | real (x : Float)
  deriving DecidableEq

namespace Amount

/-- An amount is above zero; what is no number counts as above. -/
def isPositive : Amount → Bool
  | .whole n => 0 < n
  | .real x => !(x <= 0.0)

/-- An amount is above a limit. -/
def exceeds (limit : Nat) : Amount → Bool
  | .whole n => (limit : Int) < n
  | .real x => ofInt limit < x

/-- An amount as a floating-point number. -/
def toFloat : Amount → Float
  | .whole n => ofInt n
  | .real x => x

/-- An amount in six significant digits; a whole amount is converted first. -/
def general (a : Amount) : String :=
  generalText a.toFloat

end Amount

end Deskwork.Number
