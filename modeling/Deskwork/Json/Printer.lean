/-
# Writing JSON

The JSON text of a data value, on one line or indented by two blanks. Only quotes, backslashes and
control characters are escaped.
-/
import Deskwork.Data.Value

namespace Deskwork.Json

open Deskwork.Text Deskwork.Number

/-! ## Scalars -/

/-- One character of a quoted text. -/
def escapeChar (c : Char) : List Char :=
  if c = '"' then ['\\', '"']
  else if c = '\\' then ['\\', '\\']
  else if c = '\n' then ['\\', 'n']
  else if c = '\r' then ['\\', 'r']
  else if c = '\t' then ['\\', 't']
  else if c = '\x08' then ['\\', 'b']
  else if c = '\x0c' then ['\\', 'f']
  else if c.toNat < 0x20 then '\\' :: 'u' :: hexDigits 4 c.toNat
  else [c]

/-- A quoted text. -/
def writeChars (cs : List Char) : List Char :=
  '"' :: cs.flatMap escapeChar ++ ['"']

/-- A floating-point number; the infinities and the value that is no number have names. -/
def writeFloat (x : Float) : String :=
  match exactValue x with
  | .nan => "NaN"
  | .infinite negative => if negative then "-Infinity" else "Infinity"
  | .finite _ => shortestText x

/-- A scalar. -/
def writeScalar : Scalar → List Char
  | .null => "null".toList
  | .bool true => "true".toList
  | .bool false => "false".toList
  | .int n => (intText n).toList
  | .float x => (writeFloat x).toList
  | .text s => writeChars s.toList

/-! ## One line -/

mutual

/-- A value on one line. -/
def writeLine : Value → List Char
  | .scalar s => writeScalar s
  | .list items => '[' :: lineItems items ++ [']']
  | .object fields => '\x7b' :: lineFields fields ++ ['\x7d']

/-- The items of a list on one line. -/
def lineItems : List Value → List Char
  | [] => []
  | [v] => writeLine v
  | v :: w :: rest => writeLine v ++ ',' :: ' ' :: lineItems (w :: rest)

/-- The fields of an object on one line. -/
def lineFields : List (String × Value) → List Char
  | [] => []
  | [(k, v)] => writeChars k.toList ++ ':' :: ' ' :: writeLine v
  | (k, v) :: f :: rest =>
    writeChars k.toList ++ ':' :: ' ' :: writeLine v ++ ',' :: ' ' :: lineFields (f :: rest)

end

/-- The text of a value on one line. -/
def line (v : Value) : String :=
  String.ofList (writeLine v)

/-! ## Indented -/

/-- The beginning of a line at a depth. -/
def newLine (depth : Nat) : List Char :=
  '\n' :: List.replicate (2 * depth) ' '

mutual

/-- A value whose parts stand on lines of their own. -/
def writePage (depth : Nat) : Value → List Char
  | .scalar s => writeScalar s
  | .list [] => ['[', ']']
  | .list (v :: rest) => '[' :: pageItems (depth + 1) (v :: rest) ++ newLine depth ++ [']']
  | .object [] => ['\x7b', '\x7d']
  | .object (f :: rest) =>
    '\x7b' :: pageFields (depth + 1) (f :: rest) ++ newLine depth ++ ['\x7d']

/-- The items of a list, each on a line. -/
def pageItems (depth : Nat) : List Value → List Char
  | [] => []
  | [v] => newLine depth ++ writePage depth v
  | v :: w :: rest => newLine depth ++ writePage depth v ++ ',' :: pageItems depth (w :: rest)

/-- The fields of an object, each on a line. -/
def pageFields (depth : Nat) : List (String × Value) → List Char
  | [] => []
  | [(k, v)] => newLine depth ++ writeChars k.toList ++ ':' :: ' ' :: writePage depth v
  | (k, v) :: f :: rest =>
    newLine depth ++ writeChars k.toList ++ ':' :: ' ' :: writePage depth v
      ++ ',' :: pageFields depth (f :: rest)

end

/-- The text of a value with its parts on lines of their own. -/
def page (v : Value) : String :=
  String.ofList (writePage 0 v)

/-- The two texts of a small object. -/
example : line (.object [("a", .list [.int 1, .null])]) = "\x7b\"a\": [1, null]\x7d" := by
  decide +kernel

end Deskwork.Json
