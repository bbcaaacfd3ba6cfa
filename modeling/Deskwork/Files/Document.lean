/-
# Documents

Texts and data values kept in files. A value is saved by way of a temporary file beside its own, so
that the old contents stand until the new ones are complete.
-/
import Deskwork.Files.Tree
import Deskwork.Json.Printer
import Deskwork.Json.Reader

namespace Deskwork.Files

open Deskwork.Text

/-! ## Texts -/

/-- The text of a file, with newlines as the only ends of lines. -/
def readText (t : Tree) (p : Path) : Except Fault String := do
  let bytes ← readBytes t p
  match decode bytes with
  | .error f => .error (.badText f)
  | .ok s => .ok (String.ofList (unifyNewlines s.toList))

/-- A file with a text as its contents. -/
def writeText (t : Tree) (p : Path) (s : String) : Except Fault Tree :=
  writeBytes t p (encode s)

/-- What follows the last slash of a text. -/
def lastPiece (path : String) : List Char :=
  ((splitSlashes path.toList).getLast?).getD []

/-- A text written to a file that is named by a text as it stands: a slash or a dot at its end asks
for a folder. -/
def writeNamed (t : Tree) (path : String) (s : String) : Except Fault Tree :=
  let p := Path.ofString path
  let fail (why : Refusal) : Except Fault Tree := .error (.refused why path none)
  if p.hasNull then .error .nullCharacter
  else if path.isEmpty then fail .missing
  else if lastPiece path = [] then
    match t.checkAbove p with
    | .ok _ => fail .isFolder
    | .error why => fail why
  else if isPart (lastPiece path) && lastPiece path ≠ ['.', '.'] then
    match writeText t p s with
    | .error (.refused why _ _) => fail why
    | r => r
  else
    match t.find p with
    | .ok (_, .folder) => fail .isFolder
    | .ok (_, .file _) => fail .notFolder
    | .error why => fail why

/-! ## Data values -/

/-- Why a file does not give a value. -/
inductive Unreadable where
  /-- The file has no text. -/
  | file (fault : Fault)
  /-- The text writes no value. -/
  | json (fault : Json.Fault)
  deriving DecidableEq, Repr

/-- The wording of why a file gives no value. -/
def Unreadable.message : Unreadable → String
  | .file f => f.message
  | .json f => f.message

/-- The value that a file holds. -/
def readValue (t : Tree) (p : Path) : Except Unreadable Value :=
  match readText t p with
  | .error f => .error (.file f)
  | .ok s => (Json.read s).mapError .json

/-- The path of the temporary file beside a file. -/
def temporary (p : Path) : Except Fault Path :=
  if p.name = "" then .error (.noName p) else .ok (p.rename (p.name ++ ".tmp"))

/-- Contents saved in a file; the folders above it are made when they are missing. What is to be saved may
have no text, which shows before anything is written, and its text may have no bytes, which shows when the
temporary file has been emptied for them. -/
def saveContents {ε : Type} (ofFault : Fault → ε) (t : Tree) (p : Path)
    (contents : Except ε (Except ε Bytes)) : Except ε Unit × Tree :=
  match ensureFolder t p.parent with
  | (.error f, t₁) => (.error (ofFault f), t₁)
  | (.ok _, t₁) =>
    match temporary p with
    | .error f => (.error (ofFault f), t₁)
    | .ok tmp =>
      match contents with
      | .error why => (.error why, t₁)
      | .ok text =>
        match writeBytes t₁ tmp (text.toOption.getD []) with
        | .error f => (.error (ofFault f), t₁)
        | .ok t₂ =>
          match text with
          | .error why => (.error why, t₂)
          | .ok _ =>
            match replace t₂ tmp p with
            | .error f => (.error (ofFault f), t₂)
            | .ok t₃ => (.ok (), t₃)

/-- A value saved in a file: it has a text, and the text has bytes. -/
def saveValue (t : Tree) (p : Path) (v : Value) : Outcome :=
  saveContents id t p (.ok (.ok (encode (Json.page v))))

end Deskwork.Files
