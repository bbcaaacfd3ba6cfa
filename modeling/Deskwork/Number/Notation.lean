/-
# Decimal Notation

The texts of numbers: the shortest text that reads back, the text with six significant digits, and
the text with one decimal place.
-/
import Deskwork.Number.Shortest

namespace Deskwork.Number

/-! ## Placing the point -/

/-- How digits become a text: up to which magnitude the point is placed among the digits, and
whether a whole number keeps a point. -/
structure Layout where
  /-- The greatest place of the point that is written without an exponent. -/
  widest : Int
  /-- A whole number ends in `.0`. -/
  keepsPoint : Bool

/-- The text that reads back: an exponent from `1e+16` on and below `0.0001`. -/
def exactLayout : Layout := ⟨16, true⟩

/-- The text of six significant digits: an exponent from `1e+06` on and below `0.0001`. -/
def generalLayout : Layout := ⟨6, false⟩

/-- The digits without zeros at the end, though at least one digit. -/
def trimZeros (ds : List Char) : List Char :=
  match (ds.reverse.dropWhile (· == '0')).reverse with
  | [] => ['0']
  | kept => kept

/-- The exponent with its sign and at least two digits. -/
def exponentChars (e : Int) : List Char :=
  let ds := decimalChars e.natAbs
  (if e < 0 then '-' else '+') :: (if ds.length < 2 then '0' :: ds else ds)

/-- The digits `ds`, whose point stands after the first `point` of them, as a text. -/
def Layout.place (l : Layout) (ds : List Char) (point : Int) : List Char :=
  if point ≤ -4 || l.widest < point then
    let tail := ds.drop 1
    ds.take 1 ++ (if tail.isEmpty then [] else '.' :: tail) ++ 'e' :: exponentChars (point - 1)
  else if point ≤ 0 then
    '0' :: '.' :: List.replicate (-point).toNat '0' ++ ds
  else
    let whole := ds.take point.toNat ++ List.replicate (point.toNat - ds.length) '0'
    let tail := ds.drop point.toNat
    whole ++ (if tail.isEmpty then (if l.keepsPoint then ['.', '0'] else []) else '.' :: tail)

/-- A decimal as a text. -/
def Layout.write (l : Layout) (d : Decimal) : List Char :=
  let ds := decimalChars d.digits
  l.place (trimZeros ds) (ds.length + d.exponent)

/-! ## The three texts -/

/-- The sign in front of a number. -/
def signChars (negative : Bool) : List Char :=
  if negative then ['-'] else []

/-- The text of a floating-point number, given the text of a positive exact value. -/
def writeWith (zero : List Char) (positive : Dyadic → List Char) (x : Float) : String :=
  String.ofList <|
    match exactValue x with
    | .nan => "nan".toList
    | .infinite negative => signChars negative ++ "inf".toList
    | .finite d =>
      signChars d.negative ++ (if d.mantissa = 0 then zero else positive d)

/-- The shortest text that reads back as the number. -/
def shortestText (x : Float) : String :=
  writeWith "0.0".toList
    (fun d => exactLayout.write
      (shortest d.ratio.1 d.ratio.2 (ratioBits d.ratio.1 d.ratio.2))) x

/-- The text with six significant digits. -/
def generalText (x : Float) : String :=
  writeWith "0".toList (fun d => generalLayout.write (rounded d.ratio.1 d.ratio.2 6)) x

/-- The text with one decimal place; a half goes to the even neighbour. -/
def onePlaceText (x : Float) : String :=
  writeWith "0.0".toList
    (fun d =>
      let tenths := roundHalfEven (d.ratio.1 * 10) d.ratio.2
      decimalChars (tenths / 10) ++ '.' :: decimalChars (tenths % 10)) x

/-- The text of a whole number, however long it is; only numbers that are read are limited (`digitLimit`). -/
def intText (n : Int) : String :=
  String.ofList (signChars (n < 0) ++ decimalChars n.natAbs)

/-- The shortest text of the sum of a tenth and two tenths. -/
example : shortestText (0.1 + 0.2) = "0.30000000000000004" := by decide +kernel

/-- Large and small numbers have an exponent. -/
example : [1e16, 1e15, 1e-5, 1e-4].map shortestText
    = ["1e+16", "1000000000000000.0", "1e-05", "0.0001"] := by decide +kernel

/-- Six significant digits. -/
example : [10.0, 123456.7, 1e6, 0.1].map generalText = ["10", "123457", "1e+06", "0.1"] := by
  decide +kernel

/-- One decimal place of an exact half. -/
example : [0.25, 0.75, 59.95].map onePlaceText = ["0.2", "0.8", "60.0"] := by decide +kernel

end Deskwork.Number
