/-
# Conversions

Reading the fields of steps, tasks and settings from data values: truth values, numbers, texts,
lists and the members of enumerations, each with its fault when a value does not suit.
-/
import Deskwork.Fault
import Deskwork.Text.Blank
import Deskwork.Text.Case

namespace Deskwork

open Deskwork.Text Deskwork.Number

/-! ## Types and equality of values -/

/-- The word for the type of a value. -/
def Value.typeName : Value → String
  | .scalar .null => "NoneType"
  | .scalar (.bool _) => "bool"
  | .scalar (.int _) => "int"
  | .scalar (.float _) => "float"
  | .scalar (.text _) => "str"
  | .list _ => "list"
  | .object _ => "dict"

/-- A scalar as a whole number, when it is one exactly. -/
def Scalar.whole? : Scalar → Option Int
  | .bool b => some (if b then 1 else 0)
  | .int n => some n
  | .float x =>
    match exactValue x with
    | .finite d => if d.ratio.1 % d.ratio.2 = 0 then some d.truncate else none
    | _ => none
  | _ => none

/-- Two scalars are equal: as texts, or as whole numbers of any type. -/
def Scalar.agrees (a b : Scalar) : Bool :=
  match a, b with
  | .text s, .text t => s == t
  | .null, .null => true
  | _, _ =>
    match a.whole?, b.whole? with
    | some m, some n => m == n
    | _, _ => false

/-! ## Enumerations -/

/-- The members of an enumeration and what stands for each of them in data. -/
structure Choice (α : Type) where
  title : String
  members : List α
  /-- What stands for a member. -/
  key : α → Scalar

namespace Convert

/-! ## Numbers -/

/-- The whole number of a value: a floating-point number loses its fraction, a text is read. -/
def wholeOf : Value → Except Fault Int
  | .scalar (.bool b) => .ok (if b then 1 else 0)
  | .scalar (.int n) => .ok n
  | .scalar (.float x) => (truncate? x).mapError .conversion
  | .scalar (.text s) => (readInt s).mapError .numeral
  | v => .error (.unsuitable (.notWhole v.typeName))

/-- The floating-point number of a value. -/
def floatOf : Value → Except Fault Float
  | .scalar (.bool b) => .ok (if b then 1.0 else 0.0)
  | .scalar (.int n) => (ofInt? n).mapError .conversion
  | .scalar (.float x) => .ok x
  | .scalar (.text s) => (readFloat s).mapError .numeral
  | v => .error (.unsuitable (.notFloat v.typeName))

/-! ## Fields -/

/-- How a field is read from a value. -/
abbrev Reader (α : Type) := Value → Except Fault α

/-- The words for true. -/
def trueWords : List String := ["true", "1", "yes"]

/-- The words for false. -/
def falseWords : List String := ["false", "0", "no", ""]

/-- A truth value: a text must be one of the words, of any other value it counts whether it is
empty. -/
def bool : Reader Bool
  | .scalar (.text s) =>
    let word := lower (trim s)
    if trueWords.contains word then .ok true
    else if falseWords.contains word then .ok false
    else .error (.unsuitable (.notBoolean s))
  | v => .ok v.isTrue

/-- A whole number; what is empty counts as zero. -/
def int : Reader Int := fun v =>
  if v.isTrue then wholeOf v else .ok 0

/-- A floating-point number; what is empty counts as zero. -/
def float : Reader Float := fun v =>
  if v.isTrue then floatOf v else .ok 0.0

/-- A text; the absent value is the empty text. -/
def text : Reader String := fun v => .ok v.asField

/-- A value that may be absent. -/
def optional {α : Type} (r : Reader α) : Reader (Option α)
  | .scalar .null => .ok none
  | v => (r v).map some

/-- The items of a value: those of a list, the characters of a text, the names of an object. -/
def itemsOf (v : Value) : Except Fault (List Value) :=
  if !v.isTrue then .ok []
  else
    match v with
    | .list items => .ok items
    | .scalar (.text s) => .ok (s.toList.map fun c => .text c.toString)
    | .object fields => .ok (fields.map fun f => .text f.1)
    | v => .error (.unsuitable (.noItems v.typeName))

/-- A list, each of whose items is read; the absent value stays absent. -/
def listOf {α : Type} (r : Reader α) : Reader (Option (List α))
  | .scalar .null => .ok none
  | v => do .ok (some (← (← itemsOf v).mapM r))

/-! ## Members of enumerations -/

/-- A member of an enumeration. -/
def choice {α : Type} (c : Choice α) : Reader α := fun v =>
  let found := match v with
    | .scalar s => c.members.find? fun a => (c.key a).agrees s
    | _ => none
  match found with
  | some a => .ok a
  | none => .error (.unsuitable (.notMember v.asQuoted c.title))

/-! ## Fields of an object -/

/-- The fields of a value that must be an object. -/
def fieldsOf : Value → Except Fault (List (String × Value))
  | .object fields => .ok fields
  | v => .error (.noMember v.typeName "get")

/-- A field of an object, or the given value when there is no such field. -/
def field {α : Type} (fields : List (String × Value)) (name : String) (r : Reader α) (other : α) :
    Except Fault α :=
  match Value.field? fields name with
  | some v => r v
  | none => .ok other

end Convert

end Deskwork
