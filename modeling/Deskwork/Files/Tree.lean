/-
# The File Tree

Files and folders by their places, and the elementary operations on them with their faults. A path
is followed part by part: every part but the last must be a folder, and a double dot goes up.
-/
import Deskwork.Data.Table
import Deskwork.Files.Path
import Deskwork.Text.Utf8

namespace Deskwork.Files

open Deskwork.Text

/-! ## The tree -/

/-- A place: the names on the way from the root. -/
abbrev Place := List String

/-- What stands at a place. -/
inductive Entry where
  | file (bytes : Bytes)
  | folder
  deriving DecidableEq, Repr

/-- The files and folders, and the working folder. -/
structure Tree where
  /-- What stands at the places other than the root. -/
  entries : List (Place × Entry)
  /-- The working folder. -/
  home : Place
  deriving DecidableEq

namespace Tree

/-- What stands at a place; the root is a folder. -/
def entry? (t : Tree) (p : Place) : Option Entry :=
  if p = [] then some .folder else Table.get? t.entries p

/-- The contents of the file at a place. -/
def fileAt? (t : Tree) (p : Place) : Option Bytes :=
  match t.entry? p with
  | some (.file bytes) => some bytes
  | _ => none

/-- A place lies below another one. -/
def isBelow (folder p : Place) : Bool :=
  folder.isPrefixOf p && folder.length < p.length

/-- Something stands below a place. -/
def hasBelow (t : Tree) (p : Place) : Bool :=
  t.entries.any fun e => isBelow p e.1

/-- The tree with an entry at a place. -/
def put (t : Tree) (p : Place) (e : Entry) : Tree :=
  { t with entries := Table.put t.entries p e }

/-- The tree without the entry at a place. -/
def erase (t : Tree) (p : Place) : Tree :=
  { t with entries := t.entries.filter fun e => e.1 ≠ p }

/-- The tree without what stands below a place. -/
def eraseBelow (t : Tree) (p : Place) : Tree :=
  { t with entries := t.entries.filter fun e => !isBelow p e.1 }

/-- The tree with a place and all below it moved to another place. -/
def relocate (t : Tree) (src dst : Place) : Tree :=
  { t with entries := t.entries.map fun e =>
      if src.isPrefixOf e.1 then (dst ++ e.1.drop src.length, e.2) else e }

/-- The entries below the working folder, by their names from there. -/
def snapshot (t : Tree) : List (String × Entry) :=
  t.entries.filterMap fun e =>
    if isBelow t.home e.1 then some ("/".intercalate (e.1.drop t.home.length), e.2) else none

end Tree

/-! ## Faults -/

/-- Why the system refuses an operation. -/
inductive Refusal where
  | missing
  | notFolder
  | isFolder
  | taken
  | notEmpty
  /-- The operation makes no sense for the path. -/
  | senseless
  /-- The place is in use by the system. -/
  | busy
  | longName
  deriving DecidableEq, Repr

/-- The number of a refusal. -/
def Refusal.number : Refusal → Nat
  | .missing => 2
  | .busy => 16
  | .taken => 17
  | .notFolder => 20
  | .isFolder => 21
  | .senseless => 22
  | .longName => 36
  | .notEmpty => 39

/-- The wording of a refusal. -/
def Refusal.message : Refusal → String
  | .missing => "No such file or directory"
  | .busy => "Device or resource busy"
  | .taken => "File exists"
  | .notFolder => "Not a directory"
  | .isFolder => "Is a directory"
  | .senseless => "Invalid argument"
  | .longName => "File name too long"
  | .notEmpty => "Directory not empty"

/-- Why an operation on files failed. -/
inductive Fault where
  | refused (why : Refusal) (path : String) (target : Option String)
  | nullCharacter
  | sameFile (source : Path) (destination : String)
  /-- A path without a name cannot be given another one. -/
  | noName (path : Path)
  | badName (name : String)
  /-- The contents of a file are no text. -/
  | badText (fault : Utf8Fault)
  deriving DecidableEq, Repr

/-- The wording of a fault. -/
def Fault.message : Fault → String
  | .refused why path target =>
    "[Errno " ++ toString why.number ++ "] " ++ why.message ++ ": " ++ quote path
      ++ (match target with
        | some t => " -> " ++ quote t
        | none => "")
  | .nullCharacter => "embedded null byte"
  | .sameFile src dst => src.quoted ++ " and " ++ quote dst ++ " are the same file"
  | .noName p => p.quoted ++ " has an empty name"
  | .badName n => "Invalid name " ++ quote n
  | .badText f => f.message

/-! ## Following a path -/

/-- The greatest number of bytes of a name. -/
def nameLimit : Nat := 255

/-- The greatest number of bytes of a path. -/
def pathLimit : Nat := 4095

namespace Tree

/-- The place that the parts of a path lead to from a place; the last part need not exist. -/
def walk (t : Tree) (here : Place) : List String → Except Refusal Place
  | [] => .ok here
  | part :: rest =>
    match t.entry? here with
    | none => .error .missing
    | some (.file _) => .error .notFolder
    | some .folder =>
      if part = ".." then walk t here.dropLast rest
      else if nameLimit < part.utf8ByteSize then .error .longName
      else walk t (here ++ [part]) rest

/-- The place that a path leads to. -/
def locate (t : Tree) (p : Path) : Except Refusal Place :=
  if pathLimit < p.toString.utf8ByteSize then .error .longName
  else t.walk (if p.slashes = 0 then t.home else []) p.parts

/-- The parts of a path but the last lead to a folder. -/
def checkAbove (t : Tree) (p : Path) : Except Refusal Unit :=
  if pathLimit < p.toString.utf8ByteSize then .error .longName
  else
    match t.walk (if p.slashes = 0 then t.home else []) p.parts.dropLast with
    | .error why => .error why
    | .ok place =>
      match t.entry? place with
      | none => .error .missing
      | some (.file _) => .error .notFolder
      | some .folder => .ok ()

/-- The place that a path leads to, and what stands there. -/
def find (t : Tree) (p : Path) : Except Refusal (Place × Entry) :=
  match t.locate p with
  | .error why => .error why
  | .ok place =>
    match t.entry? place with
    | none => .error .missing
    | some e => .ok (place, e)

end Tree

/-! ## Questions -/

/-- The question whether an entry of some kind stands at a path: a path that leads nowhere is
answered with no, a name that is too long is a fault. -/
def ask (t : Tree) (p : Path) (kind : Entry → Bool) : Except Fault Bool :=
  if p.hasNull then .ok false
  else
    match t.find p with
    | .ok (_, e) => .ok (kind e)
    | .error .missing => .ok false
    | .error .notFolder => .ok false
    | .error why => .error (.refused why p.toString none)

/-- An entry is a file. -/
def Entry.isFile : Entry → Bool
  | .file _ => true
  | .folder => false

/-- A file stands at a path. -/
def isFile (t : Tree) (p : Path) : Except Fault Bool := ask t p Entry.isFile

/-- A folder stands at a path. -/
def isFolder (t : Tree) (p : Path) : Except Fault Bool := ask t p fun e => !e.isFile

/-- Something stands at a path. -/
def exists? (t : Tree) (p : Path) : Except Fault Bool := ask t p fun _ => true

/-! ## Elementary operations -/

/-- The outcome of a system call about one path. -/
def onPath (p : Path) (r : Except Refusal α) : Except Fault α :=
  if p.hasNull then .error .nullCharacter
  else r.mapError fun why => .refused why p.toString none

/-- The last part of a path is a double dot. -/
def endsInDots (p : Path) : Bool := p.parts.getLast? == some ".."

/-- A new folder. -/
def makeFolder (t : Tree) (p : Path) : Except Fault Tree :=
  onPath p do
    let place ← t.locate p
    match t.entry? place with
    | some _ => .error .taken
    | none => .ok (t.put place .folder)

/-- The contents of a file. -/
def readBytes (t : Tree) (p : Path) : Except Fault Bytes :=
  onPath p do
    match ← t.find p with
    | (_, .file bytes) => .ok bytes
    | (_, .folder) => .error .isFolder

/-- A file with new contents in place of the old ones. -/
def writeBytes (t : Tree) (p : Path) (bytes : Bytes) : Except Fault Tree :=
  onPath p do
    let place ← t.locate p
    match t.entry? place with
    | some .folder => .error .isFolder
    | _ => .ok (t.put place (.file bytes))

/-- A file removed. -/
def removeFile (t : Tree) (p : Path) : Except Fault Tree :=
  onPath p do
    match ← t.find p with
    | (place, .file _) => .ok (t.erase place)
    | (_, .folder) => .error .isFolder

/-- An empty folder removed. -/
def removeFolder (t : Tree) (p : Path) : Except Fault Tree :=
  onPath p do
    match ← t.find p with
    | (_, .file _) => .error .notFolder
    | (place, .folder) =>
      if p.parts.isEmpty then .error (if p.slashes = 0 then .senseless else .busy)
      else if endsInDots p || t.hasBelow place then .error .notEmpty
      else .ok (t.erase place)

/-- What stands at `src` moved to `dst`, in place of a file or an empty folder there. -/
def replace (t : Tree) (src dst : Path) : Except Fault Tree :=
  if src.hasNull || dst.hasNull then .error .nullCharacter
  else
    let result : Except Refusal Tree := do
      t.checkAbove src
      t.checkAbove dst
      if unnamed src || unnamed dst then .error .busy
      else
        let (a, e) ← t.find src
        let b ← t.locate dst
        if a = b then .ok t
        else if Tree.isBelow a b then .error .senseless
        else if Tree.isBelow b a then .error .notEmpty
        else
          match e, t.entry? b with
          | _, none => .ok (t.relocate a b)
          | .folder, some (.file _) => .error .notFolder
          | .folder, some .folder =>
            if t.hasBelow b then .error .notEmpty else .ok ((t.erase b).relocate a b)
          | .file _, some .folder => .error .isFolder
          | .file _, some (.file _) => .ok ((t.erase b).relocate a b)
    result.mapError fun why => .refused why src.toString (some dst.toString)
where
  /-- A path whose end is no name. -/
  unnamed (p : Path) : Bool := p.parts.isEmpty || endsInDots p

/-! ## Folders and what they hold -/

/-- What became of an operation that may leave traces when it fails. -/
abbrev Outcome := Except Fault Unit × Tree

/-- The outcome of an elementary operation, which leaves no traces. -/
def outcome (t : Tree) : Except Fault Tree → Outcome
  | .ok t' => (.ok (), t')
  | .error f => (.error f, t)

/-- A refusal does not count when a folder stands at the path. -/
def unlessFolder (t : Tree) (p : Path) (f : Fault) : Except Fault Unit :=
  match f with
  | .refused _ _ _ =>
    match isFolder t p with
    | .ok true => .ok ()
    | .ok false => .error f
    | .error g => .error g
  | f => .error f

/-- A fault says that something on the way is missing. -/
def Fault.isMissing : Fault → Bool
  | .refused .missing _ _ => true
  | _ => false

/-- A folder that may exist already. -/
def makeLastFolder (t : Tree) (p : Path) : Outcome :=
  match makeFolder t p with
  | .ok t' => (.ok (), t')
  | .error f => (if f.isMissing then .error f else unlessFolder t p f, t)

/-- A folder that may exist already, together with the missing folders above it, of which there are
at most `above`. -/
def makeFolders (t : Tree) (p : Path) : Nat → Outcome
  | 0 => makeLastFolder t p
  | above + 1 =>
    match makeFolder t p with
    | .ok t' => (.ok (), t')
    | .error f =>
      if f.isMissing then
        match makeFolders t p.parent above with
        | (.ok _, t') => makeLastFolder t' p
        | (.error g, t') => (.error g, t')
      else (unlessFolder t p f, t)

/-- A folder that may exist already, together with the missing folders above it. -/
def ensureFolder (t : Tree) (p : Path) : Outcome :=
  makeFolders t p p.parts.length

/-- A folder removed with all that stands below it. -/
def removeAll (t : Tree) (p : Path) : Outcome :=
  match onPath p (t.find p) with
  | .error f => (.error f, t)
  | .ok (_, .file _) => (.error (.refused .notFolder p.toString none), t)
  | .ok (place, .folder) => outcome (t.eraseBelow place) (removeFolder (t.eraseBelow place) p)

/-! ## Copying and moving -/

/-- The two paths lead to the same entry. -/
def sameEntry (t : Tree) (p q : Path) : Bool :=
  match t.find p, t.find q with
  | .ok (a, _), .ok (b, _) => a = b
  | _, _ => false

/-- A file copied; when a folder stands at the destination, into that folder. -/
def copyFile (t : Tree) (src dst : Path) : Except Fault Tree :=
  let inside := (isFolder t dst).toOption.getD false
  let dst' := if inside then dst.child src.name else dst
  if sameEntry t src dst' then .error (.sameFile src dst'.toString)
  else do
    let bytes ← readBytes t src
    writeBytes t dst' bytes

/-- A file moved to a destination at which nothing stands: renamed, or else copied and then removed. When
only the removal fails, the copy stays. -/
def moveFile (t : Tree) (src dst : Path) : Outcome :=
  match replace t src dst with
  | .ok t' => (.ok (), t')
  | .error _ =>
    match copyFile t src dst with
    | .error f => (.error f, t)
    | .ok t' => outcome t' (removeFile t' src)

end Deskwork.Files
