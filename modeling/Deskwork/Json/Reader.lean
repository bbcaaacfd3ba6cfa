/-
# Reading JSON

Data values read from a JSON text, with the places of faults. Besides the standard form the reader
takes `NaN` and the infinities. A field that comes twice keeps its first place and its last value;
an escaped surrogate without its partner is read as the replacement character.
-/
import Deskwork.Data.Table
import Deskwork.Data.Value
import Deskwork.Number.Numeral
import Deskwork.Text.Line

namespace Deskwork.Json

open Deskwork.Text Deskwork.Number

/-! ## Faults -/

/-- What was wrong with a text. -/
inductive Cause where
  | value
  /-- No quoted name stands where a field must begin. -/
  | name
  | colon
  /-- Neither a comma nor the closing bracket follows an item. -/
  | comma
  | extra
  | unterminated
  | control
  | escape
  /-- A numbered escape does not have four hexadecimal digits. -/
  | codePoint
  /-- A byte order mark stands in front. -/
  | mark
  deriving DecidableEq, Repr

/-- The wording of a cause. -/
def Cause.message : Cause → String
  | .value => "Expecting value"
  | .name => "Expecting property name enclosed in double quotes"
  | .colon => "Expecting ':' delimiter"
  | .comma => "Expecting ',' delimiter"
  | .extra => "Extra data"
  | .unterminated => "Unterminated string starting at"
  | .control => "Invalid control character at"
  | .escape => "Invalid \\escape"
  | .codePoint => "Invalid \\uXXXX escape"
  | .mark => "Unexpected UTF-8 BOM (decode using utf-8-sig)"

/-- A fault while reading: a cause with the number of characters left at its place, or a numeral
with too many digits. -/
inductive Flaw where
  | malformed (cause : Cause) (left : Nat)
  | tooLong (digits : Nat)
  deriving DecidableEq, Repr

/-- A fault of a text, with its place counted from the beginning. -/
inductive Fault where
  | malformed (cause : Cause) (line column position : Nat)
  | numeral (fault : NumeralFault)
  deriving DecidableEq, Repr

/-- The wording of a fault. -/
def Fault.message : Fault → String
  | .malformed cause l c p =>
    cause.message ++ ": line " ++ toString l ++ " column " ++ toString c
      ++ " (char " ++ toString p ++ ")"
  | .numeral f => f.message

/-- The fault of a whole text for a flaw found on the way. -/
def Flaw.inText (cs : List Char) : Flaw → Fault
  | .malformed cause left =>
    let position := cs.length - left
    let (l, c) := lineAndColumn (cs.take position)
    .malformed cause l c position
  | .tooLong n => .numeral (.tooLong n)

/-! ## Blanks and digits -/

/-- The characters that may stand between the parts of a text. -/
def isSpace (c : Char) : Bool :=
  c == ' ' || c == '\t' || c == '\n' || c == '\r'

/-- What follows the blanks at the front. -/
def skip (cs : List Char) : List Char :=
  cs.dropWhile isSpace

/-- An ASCII digit. -/
def isDigit (c : Char) : Bool :=
  '0' ≤ c && c ≤ '9'

/-- The digits at the front, and what follows them. -/
def digitsFront (cs : List Char) : List Char × List Char :=
  (cs.takeWhile isDigit, cs.dropWhile isDigit)

/-- The number with the given ASCII digits. -/
def digitsValue (ds : List Char) : Nat :=
  ofDigits (ds.map fun c => c.toNat - 0x30)

/-- The value of a hexadecimal digit. -/
def hexValue? (c : Char) : Option Nat :=
  if isDigit c then some (c.toNat - 0x30)
  else if 'a' ≤ c && c ≤ 'f' then some (c.toNat - 0x57)
  else if 'A' ≤ c && c ≤ 'F' then some (c.toNat - 0x37)
  else none

/-- The value of four hexadecimal digits. -/
def hexFour? (a b c d : Char) : Option Nat := do
  let a ← hexValue? a
  let b ← hexValue? b
  let c ← hexValue? c
  let d ← hexValue? d
  return ((a * 16 + b) * 16 + c) * 16 + d

/-! ## Quoted texts -/

/-- A code unit that opens a pair. -/
def isHighUnit (n : Nat) : Bool := 0xD800 ≤ n && n ≤ 0xDBFF

/-- A code unit that closes a pair. -/
def isLowUnit (n : Nat) : Bool := 0xDC00 ≤ n && n ≤ 0xDFFF

/-- The character of a pair of code units. -/
def pairChar (high low : Nat) : Char :=
  Char.ofNat (0x10000 + (high - 0xD800) * 0x400 + (low - 0xDC00))

/-- The character of a single code unit. -/
def unitChar (n : Nat) : Char :=
  if isHighUnit n || isLowUnit n then '\uFFFD' else Char.ofNat n

/-- The character that a letter after a backslash stands for. -/
def escaped? : Char → Option Char
  | '"' => some '"'
  | '\\' => some '\\'
  | '/' => some '/'
  | 'b' => some '\x08'
  | 'f' => some '\x0c'
  | 'n' => some '\n'
  | 'r' => some '\r'
  | 't' => some '\t'
  | _ => none

/-- A character put in front of what was read. -/
def consRead (c : Char) (r : Except Flaw (List Char × List Char)) :
    Except Flaw (List Char × List Char) :=
  r.map fun p => (c :: p.1, p.2)

/-- What was read, with the code unit that still waits for a partner put in front. -/
def flush (waiting : Option Nat) (r : Except Flaw (List Char × List Char)) :
    Except Flaw (List Char × List Char) :=
  match waiting with
  | none => r
  | some n => consRead (unitChar n) r

/-- The characters up to the closing quote, and what follows it; `opening` characters were left at
the opening quote, and `waiting` is a code unit that may open a pair. -/
def readChars (opening : Nat) (waiting : Option Nat) :
    List Char → Except Flaw (List Char × List Char)
  | [] => .error (.malformed .unterminated opening)
  | '"' :: rest => flush waiting (.ok ([], rest))
  | '\\' :: rest =>
    match rest with
    | [] => .error (.malformed .unterminated opening)
    | 'u' :: tail =>
      match tail with
      | a :: b :: c :: d :: more =>
        match hexFour? a b c d, more.isEmpty, waiting with
        | some n, false, some high =>
          if isLowUnit n then consRead (pairChar high n) (readChars opening none more)
          else if isHighUnit n then consRead (unitChar high) (readChars opening (some n) more)
          else consRead (unitChar high) (consRead (unitChar n) (readChars opening none more))
        | some n, false, none =>
          if isHighUnit n then readChars opening (some n) more
          else consRead (unitChar n) (readChars opening none more)
        | _, _, _ => .error (.malformed .codePoint rest.length)
      | _ => .error (.malformed .codePoint rest.length)
    | c :: tail =>
      match escaped? c with
      | some x => flush waiting (consRead x (readChars opening none tail))
      | none => .error (.malformed .escape (rest.length + 1))
  | c :: rest =>
    if c.toNat < 0x20 then .error (.malformed .control (rest.length + 1))
    else flush waiting (consRead c (readChars opening none rest))

/-- A quoted text, and what follows it, from behind its opening quote. -/
def readQuoted (rest : List Char) : Except Flaw (String × List Char) :=
  (readChars (rest.length + 1) none rest).map fun p => (String.ofList p.1, p.2)

/-! ## Numbers -/

/-- The digits after a point, when there are some, and what follows them. -/
def readPlaces (cs : List Char) : List Char × List Char :=
  match cs with
  | '.' :: rest => if (digitsFront rest).1.isEmpty then ([], cs) else digitsFront rest
  | _ => ([], cs)

/-- The exponent, when there is one, and what follows it. -/
def readExponent (cs : List Char) : Option Int × List Char :=
  match cs with
  | c :: rest =>
    if c == 'e' || c == 'E' then
      let (negative, digits) := takeSign rest
      let (ds, after) := digitsFront digits
      if ds.isEmpty then (none, cs) else (some (signed negative (digitsValue ds)), after)
    else (none, cs)
  | [] => (none, cs)

/-- The whole digits of a number: a zero alone, or digits that do not begin with zero. -/
def readWhole (cs : List Char) : List Char × List Char :=
  match cs with
  | '0' :: rest => (['0'], rest)
  | _ => digitsFront cs

/-- A number, and what follows it. -/
def readNumber (cs : List Char) : Except Flaw (Value × List Char) :=
  let (negative, digits) : Bool × List Char :=
    match cs with
    | '-' :: rest => (true, rest)
    | _ => (false, cs)
  let (whole, rest) := readWhole digits
  if whole.isEmpty then .error (.malformed .value cs.length)
  else
    let (places, rest) := readPlaces rest
    let (exponent, rest) := readExponent rest
    if places.isEmpty && exponent.isNone then
      if digitLimit < whole.length then .error (.tooLong whole.length)
      else .ok (.int (signed negative (digitsValue whole)), rest)
    else
      let x := ofDecimal negative (digitsValue (whole ++ places))
        (exponent.getD 0 - places.length)
      .ok (.float x, rest)

/-! ## Values -/

mutual

/-- A value, and what follows it; the first argument bounds the nesting, which takes two for each
bracket. -/
def readValue : Nat → List Char → Except Flaw (Value × List Char)
  | 0, cs => .error (.malformed .value cs.length)
  | fuel + 1, cs =>
    match cs with
    | '"' :: rest => (readQuoted rest).map fun p => (.text p.1, p.2)
    | '\x7b' :: rest =>
      match skip rest with
      | '\x7d' :: after => .ok (.object [], after)
      | inner => (readFields fuel [] inner).map fun p => (.object p.1, p.2)
    | '[' :: rest =>
      match skip rest with
      | ']' :: after => .ok (.list [], after)
      | inner => (readItems fuel inner).map fun p => (.list p.1, p.2)
    | 'n' :: 'u' :: 'l' :: 'l' :: after => .ok (.null, after)
    | 't' :: 'r' :: 'u' :: 'e' :: after => .ok (.bool true, after)
    | 'f' :: 'a' :: 'l' :: 's' :: 'e' :: after => .ok (.bool false, after)
    | 'N' :: 'a' :: 'N' :: after => .ok (.float nan, after)
    | 'I' :: 'n' :: 'f' :: 'i' :: 'n' :: 'i' :: 't' :: 'y' :: after => .ok (.float infinity, after)
    | '-' :: 'I' :: 'n' :: 'f' :: 'i' :: 'n' :: 'i' :: 't' :: 'y' :: after =>
      .ok (.float negativeInfinity, after)
    | _ => readNumber cs

/-- The items of a list up to its closing bracket, and what follows it. -/
def readItems : Nat → List Char → Except Flaw (List Value × List Char)
  | 0, cs => .error (.malformed .value cs.length)
  | fuel + 1, cs => do
    let (v, rest) ← readValue fuel cs
    match skip rest with
    | ',' :: more =>
      let (vs, after) ← readItems fuel (skip more)
      .ok (v :: vs, after)
    | ']' :: after => .ok ([v], after)
    | other => .error (.malformed .comma other.length)

/-- The fields of an object up to its closing bracket, put after the fields already read, and what
follows it. -/
def readFields : Nat → List (String × Value) → List Char →
    Except Flaw (List (String × Value) × List Char)
  | 0, _, cs => .error (.malformed .name cs.length)
  | fuel + 1, fields, cs =>
    match cs with
    | '"' :: rest => do
      let (name, rest) ← readQuoted rest
      match skip rest with
      | ':' :: rest =>
        let (v, rest) ← readValue fuel (skip rest)
        let fields := Table.put fields name v
        match skip rest with
        | ',' :: more => readFields fuel fields (skip more)
        | '\x7d' :: after => .ok (fields, after)
        | other => .error (.malformed .comma other.length)
      | other => .error (.malformed .colon other.length)
    | other => .error (.malformed .name other.length)

end

/-! ## Whole texts -/

/-- The value that some characters write. -/
def readList (cs : List Char) : Except Flaw Value := do
  if cs.head? = some '\uFEFF' then .error (.malformed .mark cs.length)
  else
    let (v, rest) ← readValue (2 * cs.length + 1) (skip cs)
    match skip rest with
    | [] => .ok v
    | other => .error (.malformed .extra other.length)

/-- The value that a text writes. -/
def read (s : String) : Except Fault Value :=
  (readList s.toList).mapError (Flaw.inText s.toList)

end Deskwork.Json
