/-
# The Registry of Kinds

Which class of steps a tag stands for. A tag belongs to one class only, and the tag of a step is
tidied before it is looked up.
-/
import Deskwork.Step.Basic

namespace Deskwork

/-- A class of steps. -/
structure StepClass where
  /-- What tells it from other classes of the same title and tag. -/
  number : Nat
  title : String
  tag : String
  deriving DecidableEq, Repr

/-- The classes of steps by their tags. -/
abbrev Registry := List (String × StepClass)

namespace Registry

/-- The titles of the standard classes by their tags. -/
def standardTitles : List (String × String) :=
  [("mouse_click", "MouseClickAction"), ("keyboard", "KeyboardAction"), ("wait", "WaitAction"),
    ("window", "WindowAction"), ("variable_set", "VariableSetAction"), ("if", "IfAction"),
    ("loop_start", "LoopStartAction"), ("loop_end", "LoopEndAction"),
    ("file_copy", "FileCopyAction"), ("file_move", "FileMoveAction"),
    ("file_delete", "FileDeleteAction"), ("file_rename", "FileRenameAction"),
    ("folder_create", "FolderCreateAction"), ("file_exists", "FileExistsAction"),
    ("webhook", "WebhookAction")]

/-- The registry of the standard classes. -/
def standard : Registry :=
  standardTitles.map fun t => (t.1, ⟨0, t.2, t.1⟩)

/-- The registry with another class. Registering a class again changes nothing. -/
def register (r : Registry) (c : StepClass) : Except Fault Registry :=
  if c.tag.isEmpty then .error (.untagged c.title)
  else
    match Table.get? r c.tag with
    | some other => if other = c then .ok r else .error (.duplicateKind c.tag)
    | none => .ok (Table.put r c.tag c)

/-- The class of the step in an object. -/
def classOf (r : Registry) (fields : List (String × Value)) : Except Fault StepClass :=
  let tag := Step.tagOf fields
  match Table.get? r tag with
  | none => .error (.failed (.unknownKind tag))
  | some c => (Step.payloadOf tag fields).map fun _ => c

end Registry

end Deskwork
