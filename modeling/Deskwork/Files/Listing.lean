/-
# Listings

All that stands below the working folder as one data value: folders, texts, and bytes that are no
text in hexadecimal digits.
-/
import Deskwork.Data.Value
import Deskwork.Files.Tree

namespace Deskwork.Files

open Deskwork.Text

/-- Bytes in hexadecimal digits. -/
def hexText (bytes : Bytes) : String :=
  String.ofList (bytes.flatMap fun b => hexDigits 2 b.toNat)

/-- An entry as data. -/
def Entry.listing : Entry → Value
  | .folder => .null
  | .file bytes =>
    match decode bytes with
    | .ok s => .text s
    | .error _ => .object [("hex", .text (hexText bytes))]

/-- The entries below the working folder as data. -/
def Tree.listing (t : Tree) : Value :=
  .object (t.snapshot.map fun e => (e.1, e.2.listing))

end Deskwork.Files
