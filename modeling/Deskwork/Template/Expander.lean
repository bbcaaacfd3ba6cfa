/-
# The Expander

Where the custom variables come from. They are asked for once and then remembered until they are
loaded again.
-/
import Deskwork.Files.Path
import Deskwork.Fault

namespace Deskwork.Template

/-- Where custom variables come from. -/
inductive Provider where
  | none
  | given (bindings : List (String × String))
  | failing (why : Foreign)
  | settings (path : Files.Path)
  deriving DecidableEq

/-- An expander. -/
structure Expander where
  provider : Provider
  /-- The remembered custom variables. -/
  known : Option (List (String × String))
  logs : Bool
  deriving DecidableEq

namespace Expander

/-- An expander that remembers nothing yet. -/
def new (provider : Provider) (logs : Bool) : Expander := ⟨provider, Option.none, logs⟩

/-- An expander without custom variables. -/
def standard : Expander := new .none true

/-- The expander that will ask again. -/
def reload (x : Expander) : Expander := { x with known := Option.none }

end Expander

end Deskwork.Template
