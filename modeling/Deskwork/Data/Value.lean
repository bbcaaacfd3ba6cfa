/-
# Data Values

Values as they stand in data files: scalars, lists, and objects whose fields keep their order.
Every value also has a text of its own, in which texts inside lists and objects are quoted.
-/
import Deskwork.Number.Notation
import Deskwork.Text.Quoted

namespace Deskwork

open Deskwork.Text Deskwork.Number

/-! ## Scalars -/

/-- A value without parts. -/
inductive Scalar where
  | null
  | bool (b : Bool)
  | int (n : Int)
  | float (x : Float)
  | text (s : String)
  deriving DecidableEq, Inhabited

namespace Scalar

/-- The text of a scalar. -/
def asText : Scalar → String
  | .null => "None"
  | .bool true => "True"
  | .bool false => "False"
  | .int n => intText n
  | .float x => shortestText x
  | .text s => s

/-- The text of a scalar inside a list or an object. -/
def asQuoted : Scalar → String
  | .text s => quote s
  | v => v.asText

/-- A scalar counts as false when it is absent, false, zero or empty. -/
def isTrue : Scalar → Bool
  | .null => false
  | .bool b => b
  | .int n => n != 0
  | .float x => x != 0.0
  | .text s => !s.isEmpty

end Scalar

/-! ## Values -/

/-- A value of a data file. -/
inductive Value where
  | scalar (s : Scalar)
  | list (items : List Value)
  /-- Named values, in order. -/
  | object (fields : List (String × Value))
  deriving Inhabited

namespace Value

/-- The absent value. -/
abbrev null : Value := .scalar .null

/-- A truth value. -/
abbrev bool (b : Bool) : Value := .scalar (.bool b)

/-- A whole number. -/
abbrev int (n : Int) : Value := .scalar (.int n)

/-- A floating-point number. -/
abbrev float (x : Float) : Value := .scalar (.float x)

/-- A text. -/
abbrev text (s : String) : Value := .scalar (.text s)

/-- A value counts as false when it is a false scalar or has no parts. -/
def isTrue : Value → Bool
  | .scalar s => s.isTrue
  | .list items => !items.isEmpty
  | .object fields => !fields.isEmpty

/-- The field of an object. -/
def field? (fields : List (String × Value)) (name : String) : Option Value :=
  fields.lookup name

/-- The field of an object, or a value that stands for it. -/
def fieldOr (fields : List (String × Value)) (name : String) (other : Value) : Value :=
  (field? fields name).getD other

/-! ## The text of a value -/

mutual

/-- The text of a value inside a list or an object. -/
def asQuoted : Value → String
  | .scalar s => s.asQuoted
  | .list items => "[" ++ quotedItems items ++ "]"
  | .object fields => "\x7b" ++ quotedFields fields ++ "\x7d"

/-- The texts of list items, separated by commas. -/
def quotedItems : List Value → String
  | [] => ""
  | [v] => asQuoted v
  | v :: w :: rest => asQuoted v ++ ", " ++ quotedItems (w :: rest)

/-- The texts of fields, separated by commas. -/
def quotedFields : List (String × Value) → String
  | [] => ""
  | [(k, v)] => quote k ++ ": " ++ asQuoted v
  | (k, v) :: f :: rest => quote k ++ ": " ++ asQuoted v ++ ", " ++ quotedFields (f :: rest)

end

/-- The text of a value. -/
def asText : Value → String
  | .scalar s => s.asText
  | v => v.asQuoted

/-- The text of a value in a field, where the absent value is the empty text. -/
def asField : Value → String
  | .scalar .null => ""
  | v => v.asText

/-- The text of a nested value. -/
example : (Value.list [.text "a", .object [("k", .null)], .int 1]).asText
    = "['a', \x7b'k': None\x7d, 1]" := by decide +kernel

end Value

end Deskwork
