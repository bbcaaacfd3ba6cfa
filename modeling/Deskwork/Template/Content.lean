/-
# Template Fields

What stands in a field in which templates are expanded: a text, a list of texts, or something in
which nothing is expanded.
-/
import Deskwork.Data.Value

namespace Deskwork.Template

/-- What stands in a template field. -/
inductive Content where
  | text (s : String)
  | texts (items : List String)
  | other
  deriving DecidableEq, Repr

namespace Content

/-- An item of a list as a text. -/
def itemText? : Value → Option String
  | .scalar (.text s) => some s
  | _ => none

/-- What stands in a field that has a value. -/
def ofValue : Value → Content
  | .scalar (.text s) => .text s
  | .list items => .texts (items.filterMap itemText?)
  | _ => .other

/-- The text to be written to a field that holds a text: anything else leaves it as it is. -/
def textOr (old : String) : Content → String
  | .text s => s
  | _ => old

/-- The texts to be written to a field that holds a list: anything else leaves it as it is. -/
def textsOr (old : List String) : Content → List String
  | .texts items => items
  | _ => old

end Content

end Deskwork.Template
