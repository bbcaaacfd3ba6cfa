/-
# Arguments

The arguments of the two programs: one target, and a file of preferences after a flag.
-/
import Deskwork.Files.Path

namespace Deskwork.CommandLine

open Deskwork.Files

/-- What the arguments ask for. -/
structure Arguments where
  target : Option Path
  settings : Option Path
  deriving DecidableEq, Repr

/-- The flag in front of the file of preferences. -/
def settingsFlag : String := "--settings"

/-- The arguments read after those that gave `sofar`: nothing is asked for when a second target is
given or the flag stands at the end. -/
def readFrom (sofar : Arguments) : List String → Arguments
  | [] => sofar
  | [a] =>
    if a = settingsFlag then ⟨none, none⟩
    else if sofar.target.isSome then ⟨none, none⟩
    else { sofar with target := some (Path.ofString a) }
  | a :: b :: rest =>
    if a = settingsFlag then readFrom { sofar with settings := some (Path.ofString b) } rest
    else if sofar.target.isSome then ⟨none, none⟩
    else readFrom { sofar with target := some (Path.ofString a) } (b :: rest)

/-- The arguments of a program. -/
def read (arguments : List String) : Arguments :=
  readFrom ⟨none, none⟩ arguments

end Deskwork.CommandLine
