/-
# Paths

Paths as texts separated by slashes: repeated slashes and single dots mean nothing, double dots are
kept, and a path of nothing is the working folder.
-/
import Deskwork.Text.Quoted

namespace Deskwork.Files

open Deskwork.Text

/-! ## Paths and their texts -/

/-- A path: how many slashes it begins with (two are kept apart from one), and its parts. -/
structure Path where
  /-- The slashes in front: none, one or two. -/
  slashes : Nat
  parts : List String
  deriving DecidableEq, Repr

/-- The pieces of a text between slashes. -/
def splitSlashes : List Char → List (List Char)
  | [] => [[]]
  | c :: cs =>
    if c = '/' then [] :: splitSlashes cs
    else
      match splitSlashes cs with
      | [] => [[c]]
      | p :: ps => (c :: p) :: ps

/-- A piece that names something. -/
def isPart (p : List Char) : Bool :=
  p ≠ [] && p ≠ ['.']

namespace Path

/-- The path that a text writes. -/
def ofString (s : String) : Path :=
  let front := (s.toList.takeWhile (· == '/')).length
  ⟨if front = 0 then 0 else if front = 2 then 2 else 1,
    ((splitSlashes s.toList).filter isPart).map String.ofList⟩

/-- The text of a path. -/
def toString (p : Path) : String :=
  if p.slashes = 0 && p.parts.isEmpty then "."
  else String.ofList (List.replicate p.slashes '/') ++ "/".intercalate p.parts

instance : ToString Path := ⟨Path.toString⟩

/-- A path as it appears in a message about a path. -/
def quoted (p : Path) : String :=
  "PosixPath(" ++ quote p.toString ++ ")"

/-! ## Names -/

/-- The last part; a path without parts has the empty name. -/
def name (p : Path) : String :=
  p.parts.getLast?.getD ""

/-- A name cut at its last dot, when something stands on both sides of the dot. -/
def cutName (name : String) : String × String :=
  let cs := name.toList
  let suffix := (cs.reverse.takeWhile (· ≠ '.')).reverse
  let stem := cs.take (cs.length - suffix.length - 1)
  if suffix.isEmpty || stem.isEmpty || suffix.length = cs.length then (name, "")
  else (String.ofList stem, String.ofList ('.' :: suffix))

/-- The name up to its last dot. -/
def stem (p : Path) : String := (cutName p.name).1

/-- The name from its last dot on. -/
def suffix (p : Path) : String := (cutName p.name).2

/-- The path without its last part. -/
def parent (p : Path) : Path :=
  ⟨p.slashes, p.parts.dropLast⟩

/-- The path of something inside. -/
def child (p : Path) (name : String) : Path :=
  ⟨p.slashes, p.parts ++ [name]⟩

/-- The path with another last part. -/
def rename (p : Path) (name : String) : Path :=
  p.parent.child name

/-- Only the last dot counts, and a dot in front does not. -/
example : (ofString "/usr//bin/./app.tar.gz").stem = "app.tar" ∧ (ofString ".hid").stem = ".hid" := by
  decide

/-! ## Resolving by the text -/

/-- The parts of an absolute path with every double dot taken together with what comes before;
`above` holds the parts so far, the last first. -/
def cancelDots (above : List String) : List String → List String
  | [] => above.reverse
  | p :: rest => if p = ".." then cancelDots above.tail rest else cancelDots (p :: above) rest

/-- The parts of a path seen from the working folder `home`, without double dots. -/
def resolve (p : Path) (home : List String) : List String :=
  cancelDots [] (if p.slashes = 0 then home ++ p.parts else p.parts)

/-- A path holds a character that no path may hold. -/
def hasNull (p : Path) : Bool :=
  p.parts.any fun s => s.toList.contains '\x00'

end Path

end Deskwork.Files
