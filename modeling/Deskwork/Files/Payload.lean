/-
# Payloads

What may be handed over to be saved: data values, in which things may stand that no text or no bytes can
write.
-/
import Deskwork.Files.Document

namespace Deskwork.Files

open Deskwork.Number Deskwork.Text

/-- Why a payload is not saved. -/
inductive Unwritable where
  | file (fault : Fault)
  /-- It holds something of a type that no text writes. -/
  | foreign (type : String)
  /-- It holds a name of a type that no text writes. -/
  | foreignName (type : String)
  | longNumber
  | circular
  | deep
  /-- It holds a text with half of a pair of surrogates, which no bytes write. -/
  | halved
  deriving DecidableEq, Repr

/-- The name of a field of a payload. -/
inductive FieldName where
  /-- A name that a text writes, also when it is none in data. -/
  | scalar (s : Scalar)
  /-- A text with half of a pair of surrogates. -/
  | halved
  | foreign (type : String)
  deriving DecidableEq

/-- What may be handed over to be saved. -/
inductive Payload where
  | scalar (s : Scalar)
  /-- A text with half of a pair of surrogates. -/
  | halved
  | foreign (type : String)
  /-- A list or an object in which this stands. -/
  | circular
  /-- Something too deep inside. -/
  | deep
  | list (items : List Payload)
  | object (fields : List (FieldName × Payload))

/-- A value without parts that a text writes: a whole number must not have too many digits. -/
def writableScalar (s : Scalar) : Except Unwritable Scalar :=
  match s with
  | .int n => if digitLimit < (decimalChars n.natAbs).length then .error .longNumber else .ok s
  | _ => .ok s

/-- The text of a name. Half of a pair of surrogates is left out. -/
def FieldName.text : FieldName → Except Unwritable String
  | .scalar (.text s) => .ok s
  | .scalar s => (writableScalar s).map fun s => String.ofList (Json.writeScalar s)
  | .halved => .ok ""
  | .foreign type => .error (.foreignName type)

namespace Payload

mutual

/-- The value that a payload is, up to the first part that no text writes. Halves of pairs of surrogates
are left out. -/
def value : Payload → Except Unwritable Value
  | .scalar s => (writableScalar s).map .scalar
  | .halved => .ok (.text "")
  | .foreign type => .error (.foreign type)
  | .circular => .error .circular
  | .deep => .error .deep
  | .list items => (itemValues items).map .list
  | .object fields => (fieldValues fields).map .object

/-- The values of the items of a list. -/
def itemValues : List Payload → Except Unwritable (List Value)
  | [] => .ok []
  | x :: rest => do
    let v ← value x
    let vs ← itemValues rest
    return v :: vs

/-- The values of fields, with their names. -/
def fieldValues : List (FieldName × Payload) → Except Unwritable (List (String × Value))
  | [] => .ok []
  | (name, x) :: rest => do
    let k ← name.text
    let v ← value x
    let vs ← fieldValues rest
    return (k, v) :: vs

end

mutual

/-- A payload holds half of a pair of surrogates. -/
def isHalved : Payload → Bool
  | .halved => true
  | .list items => anyItemHalved items
  | .object fields => anyFieldHalved fields
  | _ => false

/-- An item of a list holds half of a pair. -/
def anyItemHalved : List Payload → Bool
  | [] => false
  | x :: rest => isHalved x || anyItemHalved rest

/-- A field or its name holds half of a pair. -/
def anyFieldHalved : List (FieldName × Payload) → Bool
  | [] => false
  | (name, x) :: rest => decide (name = .halved) || isHalved x || anyFieldHalved rest

end

/-- The bytes to save for a payload: it may have no text, or its text no bytes. -/
def contents (x : Payload) : Except Unwritable (Except Unwritable Bytes) :=
  x.value.map fun v => if x.isHalved then .error .halved else .ok (encode (Json.page v))

end Payload

/-- A payload saved in a file. -/
def savePayload (t : Tree) (p : Path) (x : Payload) : Except Unwritable Unit × Tree :=
  saveContents .file t p x.contents

end Deskwork.Files
