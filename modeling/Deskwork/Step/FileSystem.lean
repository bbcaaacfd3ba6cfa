/-
# Files and Folders

Copying, moving, deleting and renaming files, making folders, and asking whether something exists.
-/
import Deskwork.Data.Convert
import Deskwork.Step.Session

namespace Deskwork

open Deskwork.Text Deskwork.Files

/-! ## Kinds of entries -/

/-- A kind of entry. -/
inductive EntryKind where
  | file
  | folder
  deriving DecidableEq, Repr

namespace EntryKind

/-- The word for a kind of entry. -/
def word : EntryKind → String
  | .file => "file"
  | .folder => "folder"

/-- The word for a kind of entry at the beginning of a sentence. -/
def title : EntryKind → String
  | .file => "File"
  | .folder => "Folder"

/-- The kinds of entries in data. -/
def choice : Choice EntryKind :=
  ⟨"FileSystemType", [.file, .folder], fun k => .text k.word⟩

/-- An entry of the kind stands at a path. -/
def stands (k : EntryKind) (t : Tree) (p : Path) : Except Files.Fault Bool :=
  match k with
  | .file => isFile t p
  | .folder => isFolder t p

end EntryKind

/-- A text must not be blank. -/
def require (s : String) (why : Invalid) : Except Fault Unit :=
  if allBlank s then .error (.invalid why) else .ok ()

/-- An operation on files whose refusal by the system is a failure of the step. -/
def StepM.tryFiles (failure : Files.Fault → Failure) (f : Tree → Outcome) : StepM Unit := do
  match ← StepM.changeFiles f with
  | .ok _ => return ()
  | .error why => throw (if (Fault.file why).isSystem then .failed (failure why) else .file why)

/-- A question about the files whose refusal by the system is a failure of the step. -/
def StepM.tryAsk {α : Type} (failure : Files.Fault → Failure)
    (q : Tree → Except Files.Fault α) : StepM α := do
  match q (← StepM.files) with
  | .ok a => return a
  | .error why => throw (if (Fault.file why).isSystem then .failed (failure why) else .file why)

/-! ## Copying and moving -/

/-- A file is copied or moved. -/
structure FileTransfer where
  source : String
  /-- Where it goes, or the folder into which it goes. -/
  destination : String
  overwrite : Bool
  deriving DecidableEq, Repr

/-- How a file is transferred. -/
inductive TransferVerb where
  | copy
  | move
  deriving DecidableEq, Repr

namespace TransferVerb

/-- The word for a verb. -/
def word : TransferVerb → String
  | .copy => "copy"
  | .move => "move"

/-- The word for a verb at the beginning of a sentence. -/
def title : TransferVerb → String
  | .copy => "Copy"
  | .move => "Move"

/-- A file transferred. Before a move, a file that stands at the destination is removed. -/
def transfer (v : TransferVerb) (t : Tree) (src dst : Path) : Outcome :=
  match v with
  | .copy => outcome t (copyFile t src dst)
  | .move =>
    match exists? t dst with
    | .error f => (.error f, t)
    | .ok false => moveFile t src dst
    | .ok true =>
      match removeFile t dst with
      | .error f => (.error f, t)
      | .ok t' => moveFile t' src dst

end TransferVerb

namespace FileTransfer

/-- A transfer from the fields of its data. -/
def ofFields (fs : List (String × Value)) : Except Fault FileTransfer := do
  let source ← Convert.field fs "source_path" Convert.text ""
  let destination ← Convert.field fs "destination_path" Convert.text ""
  let overwrite ← Convert.field fs "overwrite" Convert.bool false
  return ⟨source, destination, overwrite⟩

/-- The fields of a transfer as data. -/
def fields (f : FileTransfer) : List (String × Value) :=
  [("source_path", .text f.source), ("destination_path", .text f.destination),
    ("overwrite", .bool f.overwrite)]

/-- The path of the source. -/
def sourcePath (f : FileTransfer) : Path := Path.ofString f.source

/-- The name of a transfer. -/
def name (f : FileTransfer) (v : TransferVerb) : String :=
  v.title ++ " file: " ++ f.sourcePath.name

/-- The text that describes a transfer. -/
def describe (f : FileTransfer) : String :=
  f.source ++ " -> " ++ f.destination ++ " (overwrite: " ++ (if f.overwrite then "yes" else "no")
    ++ ")"

/-- There is a source and a destination. -/
def check (f : FileTransfer) : Except Fault Unit := do
  require f.source .noSource
  require f.destination .noDestination

/-- A template field overwritten. -/
def write (name : String) (c : Template.Content) (f : FileTransfer) : FileTransfer :=
  if name = "source_path" then { f with source := c.textOr f.source }
  else if name = "destination_path" then { f with destination := c.textOr f.destination }
  else f

/-- Two paths lead to the same place by their texts. -/
def samePlace (t : Tree) (p q : Path) : Except Files.Fault Bool :=
  if p.hasNull || q.hasNull then .error .nullCharacter
  else .ok (p.resolve t.home == q.resolve t.home)

/-- Where the file goes: into the folder at the destination, or else to the destination, whose
folder is made when it is missing. -/
def resolve (f : FileTransfer) : StepM Path := do
  let source := f.sourcePath
  if !(← StepM.askFiles fun t => isFile t source) then throw (.failed (.sourceMissing source))
  let given := Path.ofString f.destination
  let destination :=
    if ← StepM.askFiles fun t => isFolder t given then given.child source.name else given
  if ← StepM.askFiles fun t => samePlace t destination source then
    throw (.failed (.sameFile source))
  if (← StepM.askFiles fun t => exists? t destination) && !f.overwrite then
    throw (.failed (.destinationTaken destination))
  match ← StepM.changeFiles fun t => ensureFolder t destination.parent with
  | .ok _ => return destination
  | .error why => throw (.file why)

/-- The file transferred. -/
def run (f : FileTransfer) (v : TransferVerb) : StepM Unit := do
  let destination ← f.resolve
  StepM.tryFiles (.notTransferred v.word f.source) fun t => v.transfer t f.sourcePath destination
  StepM.info (v.word ++ ": " ++ f.source ++ " -> " ++ destination.toString)

end FileTransfer

/-! ## Deleting -/

/-- A file or a folder is deleted. -/
structure Deletion where
  target : String
  kind : EntryKind
  /-- A folder is deleted with all that it holds. -/
  recursive : Bool
  deriving DecidableEq, Repr

namespace Deletion

/-- A deletion from the fields of its data. -/
def ofFields (fs : List (String × Value)) : Except Fault Deletion := do
  let target ← Convert.field fs "target_path" Convert.text ""
  let kind ← Convert.field fs "target_type" (Convert.choice EntryKind.choice) .file
  let recursive ← Convert.field fs "recursive" Convert.bool false
  return ⟨target, kind, recursive⟩

/-- The fields of a deletion as data. -/
def fields (d : Deletion) : List (String × Value) :=
  [("target_path", .text d.target), ("target_type", .text d.kind.word),
    ("recursive", .bool d.recursive)]

/-- The path of what is deleted. -/
def path (d : Deletion) : Path := Path.ofString d.target

/-- The name of a deletion. -/
def name (d : Deletion) : String :=
  "Delete " ++ d.kind.word ++ ": " ++ d.path.name

/-- The text that describes a deletion. -/
def describe (d : Deletion) : String :=
  "Delete " ++ d.target ++ (if d.recursive then " (recursive)" else "")

/-- There is a target. -/
def check (d : Deletion) : Except Fault Unit := require d.target .noTarget

/-- A template field overwritten. -/
def write (name : String) (c : Template.Content) (d : Deletion) : Deletion :=
  if name = "target_path" then { d with target := c.textOr d.target } else d

/-- The failure when there is nothing of the kind. -/
def missing (d : Deletion) : Failure :=
  match d.kind with
  | .file => .fileMissing d.path
  | .folder => .folderMissing d.path

/-- The entry removed. -/
def remove (d : Deletion) (t : Tree) : Outcome :=
  match d.kind with
  | .file => outcome t (removeFile t d.path)
  | .folder => if d.recursive then removeAll t d.path else outcome t (removeFolder t d.path)

/-- The entry deleted, which must be of the kind. -/
def run (d : Deletion) : StepM Unit := do
  if !(← StepM.tryAsk (.notDeleted d.path) fun t => d.kind.stands t d.path) then
    throw (.failed d.missing)
  StepM.tryFiles (.notDeleted d.path) d.remove
  StepM.info ("Deleted: " ++ d.path.toString)

end Deletion

/-! ## Renaming -/

/-- A file or a folder gets another name. -/
structure Renaming where
  source : String
  newName : String
  overwrite : Bool
  deriving DecidableEq, Repr

namespace Renaming

/-- A renaming from the fields of its data. -/
def ofFields (fs : List (String × Value)) : Except Fault Renaming := do
  let source ← Convert.field fs "source_path" Convert.text ""
  let newName ← Convert.field fs "new_name" Convert.text ""
  let overwrite ← Convert.field fs "overwrite" Convert.bool false
  return ⟨source, newName, overwrite⟩

/-- The fields of a renaming as data. -/
def fields (r : Renaming) : List (String × Value) :=
  [("source_path", .text r.source), ("new_name", .text r.newName),
    ("overwrite", .bool r.overwrite)]

/-- The path of what is renamed. -/
def path (r : Renaming) : Path := Path.ofString r.source

/-- The name of a renaming. -/
def name (r : Renaming) : String := "Rename: " ++ r.path.name

/-- The text that describes a renaming. -/
def describe (r : Renaming) : String := r.source ++ " -> " ++ r.newName

/-- There is a source and a new name without separators. -/
def check (r : Renaming) : Except Fault Unit := do
  require r.source .noSource
  require r.newName .noNewName
  if r.newName.toList.any fun c => c == '/' || c == '\\' then .error (.invalid .partsInName)
  else .ok ()

/-- A template field overwritten. -/
def write (name : String) (c : Template.Content) (r : Renaming) : Renaming :=
  if name = "source_path" then { r with source := c.textOr r.source }
  else if name = "new_name" then { r with newName := c.textOr r.newName }
  else r

/-- The path under the new name. -/
def destination (r : Renaming) : Except Files.Fault Path :=
  let named := Path.ofString r.newName
  if r.path.name = "" then .error (.noName r.path)
  else if named.slashes ≠ 0 || named.parts.length ≠ 1 || r.newName.toList.getLast? == some '/' then
    .error (.badName r.newName)
  else .ok (r.path.rename r.newName)

/-- The entry renamed. -/
def run (r : Renaming) : StepM Unit := do
  if !(← StepM.askFiles fun t => exists? t r.path) then throw (.failed (.notFound r.path))
  let destination ← StepM.askFiles fun _ => r.destination
  if (← StepM.askFiles fun t => exists? t destination) && !r.overwrite then
    throw (.failed (.destinationTaken destination))
  StepM.tryFiles (.notRenamed r.path) fun t => outcome t (replace t r.path destination)
  StepM.info ("Renamed: " ++ r.path.toString ++ " -> " ++ destination.toString)

end Renaming

/-! ## Making folders -/

/-- A folder is made. -/
structure FolderCreation where
  folder : String
  deriving DecidableEq, Repr

namespace FolderCreation

/-- A step that makes a folder from the fields of its data. -/
def ofFields (fs : List (String × Value)) : Except Fault FolderCreation := do
  let folder ← Convert.field fs "folder_path" Convert.text ""
  return ⟨folder⟩

/-- The fields of a step that makes a folder as data. -/
def fields (f : FolderCreation) : List (String × Value) := [("folder_path", .text f.folder)]

/-- The text that describes the step. -/
def describe (f : FolderCreation) : String := "Create folder " ++ f.folder

/-- There is a folder path. -/
def check (f : FolderCreation) : Except Fault Unit := require f.folder .noFolder

/-- A template field overwritten. -/
def write (name : String) (c : Template.Content) (f : FolderCreation) : FolderCreation :=
  if name = "folder_path" then ⟨c.textOr f.folder⟩ else f

/-- The folder made, with the missing folders above it; it may exist already. -/
def run (f : FolderCreation) : StepM Unit := do
  StepM.tryFiles (.notCreated f.folder) fun t => ensureFolder t (Path.ofString f.folder)
  StepM.info ("Folder ready: " ++ f.folder)

end FolderCreation

/-! ## Asking whether something exists -/

/-- A step that asks whether a file or a folder exists. -/
structure ExistenceCheck where
  target : String
  kind : EntryKind
  /-- The step fails when there is no such entry. -/
  required : Bool
  /-- The variable that gets the answer. -/
  variableName : String
  deriving DecidableEq, Repr

namespace ExistenceCheck

/-- A question from the fields of its data. -/
def ofFields (fs : List (String × Value)) : Except Fault ExistenceCheck := do
  let target ← Convert.field fs "target_path" Convert.text ""
  let kind ← Convert.field fs "target_type" (Convert.choice EntryKind.choice) .file
  let required ← Convert.field fs "fail_if_not_exists" Convert.bool true
  let variableName ← Convert.field fs "result_variable" Convert.text ""
  return ⟨target, kind, required, variableName⟩

/-- The fields of a question as data. -/
def fields (e : ExistenceCheck) : List (String × Value) :=
  [("target_path", .text e.target), ("target_type", .text e.kind.word),
    ("fail_if_not_exists", .bool e.required), ("result_variable", .text e.variableName)]

/-- The name of a question. -/
def name (e : ExistenceCheck) : String := e.kind.title ++ " exists"

/-- The text that describes a question. -/
def describe (e : ExistenceCheck) : String := "Check " ++ e.kind.word ++ " " ++ e.target

/-- There is a target. -/
def check (e : ExistenceCheck) : Except Fault Unit := require e.target .noTarget

/-- A template field overwritten. -/
def write (name : String) (c : Template.Content) (e : ExistenceCheck) : ExistenceCheck :=
  if name = "target_path" then { e with target := c.textOr e.target } else e

/-- The question asked and its answer kept. -/
def run (e : ExistenceCheck) : StepM Unit := do
  let path := Path.ofString e.target
  let answer ← StepM.askFiles fun t => e.kind.stands t path
  if !allBlank e.variableName then
    StepM.setVariable e.variableName (.text (if answer then "true" else "false"))
  if answer then StepM.info ("Exists: " ++ path.toString)
  else if e.required then throw (.failed (.absent path))
  else StepM.info ("Does not exist: " ++ path.toString)

end ExistenceCheck

end Deskwork
