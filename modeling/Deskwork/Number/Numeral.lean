/-
# Numerals

Reading whole and floating-point numbers from a text. The digits may be of any script, single
underscores may stand between digits, and padding may surround the numeral.
-/
import Deskwork.Number.Notation
import Deskwork.Text.Blank
import Deskwork.Text.Digit
import Deskwork.Text.Quoted

namespace Deskwork.Number

open Deskwork.Text

/-! ## Digits -/

/-- The text begins with a digit. -/
def beginsWithDigit : List Char → Bool
  | [] => false
  | c :: _ => (digitValue? c).isSome

/-- The digits at the front, with single underscores in front of digits passed over, and what
follows them. -/
def digitsAfter : List Char → List Nat × List Char
  | [] => ([], [])
  | c :: rest =>
    match digitValue? c with
    | some d => (d :: (digitsAfter rest).1, (digitsAfter rest).2)
    | none => if c == '_' && beginsWithDigit rest then digitsAfter rest else ([], c :: rest)

/-- The longest run of digits at the front, in which a single underscore may stand between two
digits, and what follows it. -/
def takeDigits (cs : List Char) : List Nat × List Char :=
  if beginsWithDigit cs then digitsAfter cs else ([], cs)

/-- The number with the given digits, the most significant first. -/
def ofDigits (ds : List Nat) : Nat :=
  ds.foldl (fun n d => n * 10 + d) 0

/-- A sign at the front, and what follows it. -/
def takeSign : List Char → Bool × List Char
  | '-' :: rest => (true, rest)
  | '+' :: rest => (false, rest)
  | cs => (false, cs)

/-! ## Whole numbers -/

/-- The greatest number of digits that a numeral may have. -/
def digitLimit : Nat := 4300

/-- Why a text is not a numeral. -/
inductive NumeralFault where
  | notWhole (text : String)
  | tooLong (digits : Nat)
  | notDecimal (text : String)
  deriving DecidableEq, Repr

/-- The wording of a fault of a numeral; a long text that is no whole number is cut. -/
def NumeralFault.message : NumeralFault → String
  | .notWhole s =>
    "invalid literal for int() with base 10: " ++ String.ofList ((quote s).toList.take 200)
  | .tooLong n =>
    "Exceeds the limit (" ++ toString digitLimit
      ++ " digits) for integer string conversion: value has " ++ toString n
      ++ " digits; use sys.set_int_max_str_digits() to increase the limit"
  | .notDecimal s => "could not convert string to float: " ++ quote s

/-- The whole number that a text writes. -/
def readInt (s : String) : Except NumeralFault Int :=
  let (negative, cs) := takeSign (trimBy isPadding s.toList)
  let (ds, after) := takeDigits cs
  if ds.isEmpty || after.head? == some '_' then .error (.notWhole s)
  else if digitLimit < ds.length then .error (.tooLong ds.length)
  else if after.isEmpty then .ok (signed negative (ofDigits ds))
  else .error (.notWhole s)

/-! ## Floating-point numbers -/

/-- The floating-point number nearest to `digits · 10^exponent`. -/
def ofDecimal (negative : Bool) (digits : Nat) (exponent : Int) : Float :=
  let size := (decimalChars digits).length
  if digits = 0 then ofRatio negative 0 1
  else if 310 < exponent + size then if negative then negativeInfinity else infinity
  else if exponent + size < -330 then ofRatio negative 0 1
  else
    let (n, m) := Decimal.ratio ⟨digits, exponent⟩
    ofRatio negative n m

/-- The exponent at the front, if there is one, and what follows it. -/
def takeExponent (cs : List Char) : Int × List Char :=
  match cs with
  | c :: rest =>
    if c == 'e' || c == 'E' then
      let (negative, digits) := takeSign rest
      let (ds, after) := takeDigits digits
      if ds.isEmpty then (0, cs) else (signed negative (ofDigits ds), after)
    else (0, cs)
  | [] => (0, cs)

/-- The digits after a point at the front, and what follows them. -/
def takeFraction (cs : List Char) : Option (List Nat) × List Char :=
  match cs with
  | '.' :: rest => ((takeDigits rest).1, (takeDigits rest).2)
  | _ => (none, cs)

/-- The named values, in any case. -/
def namedFloat? (negative : Bool) (cs : List Char) : Option Float :=
  let word := cs.map Char.toLower
  if word == "inf".toList || word == "infinity".toList then
    some (if negative then negativeInfinity else infinity)
  else if word == "nan".toList then some nan
  else none

/-- The floating-point number that a text writes. -/
def readFloat (s : String) : Except NumeralFault Float :=
  let (negative, cs) := takeSign (trimBy isPadding s.toList)
  let (whole, rest) := takeDigits cs
  let (fraction, rest) := takeFraction rest
  let places := fraction.getD []
  if whole.isEmpty && places.isEmpty then
    match namedFloat? negative cs with
    | some x => .ok x
    | none => .error (.notDecimal s)
  else
    let (exponent, rest) := takeExponent rest
    if rest.isEmpty then
      .ok (ofDecimal negative (ofDigits (whole ++ places)) (exponent - places.length))
    else .error (.notDecimal s)

end Deskwork.Number
