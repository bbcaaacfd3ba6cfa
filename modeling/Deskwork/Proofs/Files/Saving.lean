/-
# Saving a Value

A value is saved by way of a temporary file that takes the place of the old one. In a sound tree this goes
one of three ways (`course_saveContents`), and it succeeds exactly at the writable paths
(`saveContents_ok_iff`): the folders above can be made, and no folder stands in the place of the file or of
the temporary one. Afterwards the file is there and holds the text of the value, so that a value which a
text keeps is read back (`Saved.readValue`).
-/
import Deskwork.Files.Document
import Deskwork.Proofs.Files.Moving
import Deskwork.Proofs.Json.RoundTrip
import Deskwork.Proofs.Results
import Deskwork.Proofs.Text.Encoding
import Deskwork.Text.Line

namespace Deskwork.Files

open Deskwork.Text Deskwork.Files.Tree

/-! ## Paths -/

namespace Path

/-- The path of the temporary file beside a file. -/
def beside (p : Path) : Path := p.rename (p.name ++ ".tmp")

/-- A temporary file stands in the folder of its file. -/
@[simp]
theorem parent_beside (p : Path) : p.beside.parent = p.parent := p.parent_rename _

/-- The name of a temporary file. -/
@[simp]
theorem name_beside (p : Path) : p.beside.name = p.name ++ ".tmp" := p.name_rename _

/-- The name of a temporary file is not empty. -/
theorem name_beside_ne_empty (p : Path) : p.beside.name ≠ "" := by simp

/-- The name of a temporary file is no double dot, for it is longer. -/
theorem name_beside_ne_dots (p : Path) : p.beside.name ≠ ".." := by
  intro h
  have length := congrArg (fun s : String => s.toList.length) h
  simp at length

/-- The path of a temporary file holds a null character when that of its file does. -/
theorem hasNull_beside {p : Path} (named : p.name ≠ "") : p.beside.hasNull = p.hasNull := by
  rw [hasNull, hasNull, parts_eq named, parts_eq p.name_beside_ne_empty, parent_beside, name_beside]
  simp

end Path

variable {t t' : Tree} {p : Path}

/-! ## Saving -/

/-- A path to which a value can be saved. -/
structure Writable (t : Tree) (p : Path) : Prop where
  /-- It holds no null character. -/
  noNull : p.hasNull = false
  /-- It has a name. -/
  named : p.name ≠ ""
  /-- The name is no double dot. -/
  noDots : p.name ≠ ".."
  /-- The folders above it are there or can be made. -/
  above : (ensureFolder t p.parent).1 = .ok ()
  /-- No folder stands there then, and it is not too long. -/
  free : isFolder (ensureFolder t p.parent).2 p = .ok false
  /-- The same holds of the temporary file. -/
  freeBeside : isFolder (ensureFolder t p.parent).2 p.beside = .ok false

/-- What a saved value leaves in a tree. -/
structure Saved (t : Tree) (p : Path) (v : Value) : Prop where
  /-- The file is there. -/
  there : exists? t p = .ok true
  /-- It holds the text of the value. -/
  text : readBytes t p = .ok (encode (Json.page v))

/-- When the temporary file is written, all folders are kept, and it is found beside the place of the
file. -/
theorem find_put_beside {d : Place} (above : t.find p.parent = .ok (d, .folder))
    (takes : Takes t p.beside d) {bytes : Bytes}
    (tree : t' = t.put (d ++ [p.beside.name]) (.file bytes)) :
    t.Keeps t' ∧ t'.find p.parent = .ok (d, .folder) ∧
      t'.find p.beside = .ok (d ++ [p.beside.name], .file bytes) := by
  obtain ⟨located, folder⟩ := find_eq_ok_iff.mp above
  have keeps : t.Keeps t' := tree ▸ keeps_put takes.free _
  have file : t'.entry? (d ++ [p.beside.name]) = some (.file bytes) :=
    tree ▸ entry?_put_self _ (snoc_ne_root d _) _
  exact ⟨keeps, find_eq_ok_iff.mpr ⟨keeps.locate located, keeps.folder d folder⟩,
    find_eq_ok_iff.mpr ⟨keeps.locate takes.located, file⟩⟩

/-- A file was written where the path can take one. -/
theorem takes_of_writeBytes (named : p.name ≠ "") (noDots : p.name ≠ "..") {d : Place}
    (above : t.find p.parent = .ok (d, .folder)) {bytes : Bytes}
    (h : writeBytes t p bytes = .ok t') :
    p.hasNull = false ∧ Takes t p d ∧ t' = t.put (d ++ [p.name]) (.file bytes) := by
  obtain ⟨noNull, b, located, free, rfl⟩ := place_of_writeBytes h
  have leads := locate_named named noDots (above_of_find above)
  split at leads
  · rw [leads] at located
    cases located
  · obtain rfl : d ++ [p.name] = b := Except.ok.inj (leads.symm.trans located)
    exact ⟨noNull, ⟨located, free⟩, rfl⟩

/-- The temporary file was written: folders were made above it before, and nothing else was changed. -/
structure Drafted (t : Tree) (p : Path) (d : Place) (bytes : Bytes) (t₁ t₂ : Tree) : Prop where
  /-- Folders were made. -/
  made : ensureFolder t p.parent = (.ok (), t₁)
  /-- The path has a name. -/
  named : p.name ≠ ""
  /-- The folder above it is there. -/
  above : t₁.find p.parent = .ok (d, .folder)
  /-- The path of the temporary file holds no null character. -/
  noNull : p.beside.hasNull = false
  /-- It can take a file. -/
  takes : Takes t₁ p.beside d
  /-- It was written. -/
  tree : t₂ = t₁.put (d ++ [p.beside.name]) (.file bytes)

variable {ε : Type} {ofFault : Fault → ε} {contents : Except ε (Except ε Bytes)} {t₁ t₂ : Tree}
  {d : Place} {bytes : Bytes}

/-- The way that the saving of contents takes. -/
inductive Course (t : Tree) (p : Path) (contents : Except ε (Except ε Bytes)) :
    Except ε Unit × Tree → Prop where
  /-- It fails before anything is written. -/
  | early {t₁ : Tree} (why : ε) (grown : t.Grown t₁) : Course t p contents (.error why, t₁)
  /-- It fails when the temporary file has been written. -/
  | halfway {t₁ t₂ : Tree} {d : Place} {bytes : Bytes} (why : ε)
      (drafted : Drafted t p d bytes t₁ t₂) : Course t p contents (.error why, t₂)
  /-- The temporary file takes the place of the old one. -/
  | done {t₁ t₂ t₃ : Tree} {d : Place} {bytes : Bytes} (drafted : Drafted t p d bytes t₁ t₂)
      (given : contents = .ok (.ok bytes)) (replaced : replace t₂ p.beside p = .ok t₃) :
      Course t p contents (.ok (), t₃)

/-- In a sound tree the saving of contents takes such a way. -/
theorem course_saveContents (sound : t.Sound) (ofFault : Fault → ε)
    (contents : Except ε (Except ε Bytes)) :
    Course t p contents (saveContents ofFault t p contents) := by
  generalize made : ensureFolder t p.parent = outcome₁
  obtain ⟨r, t₁⟩ := outcome₁
  have grown := grown_of_ensureFolder made
  unfold saveContents
  rw [made]
  cases r with
  | error f => exact .early _ grown
  | ok _ =>
    dsimp only
    by_cases named : p.name = ""
    · have none : temporary p = .error (.noName p) := if_pos named
      rw [none]
      exact .early _ grown
    · have temp : temporary p = .ok p.beside := if_neg named
      rw [temp]
      dsimp only
      cases contents with
      | error why => exact .early why grown
      | ok text =>
        dsimp only
        cases written : writeBytes t₁ p.beside (text.toOption.getD []) with
        | error f => exact .early _ grown
        | ok t₂ =>
          obtain ⟨-, -, d, above⟩ := made_of_ensureFolder sound made
          have aboveBeside : t₁.find p.beside.parent = .ok (d, .folder) := by
            rw [Path.parent_beside, above]
          obtain ⟨noNull, takes, tree⟩ := takes_of_writeBytes p.name_beside_ne_empty
            p.name_beside_ne_dots aboveBeside written
          have drafted : Drafted t p d (text.toOption.getD []) t₁ t₂ :=
            ⟨made, named, above, noNull, takes, tree⟩
          cases text with
          | error why => exact .halfway why drafted
          | ok bytes =>
            dsimp only
            cases replaced : replace t₂ p.beside p with
            | error f => exact .halfway _ drafted
            | ok t₃ => exact .done drafted rfl replaced

namespace Drafted

/-- The name of the temporary file is another one than that of the file. -/
theorem apart (d : Place) (p : Path) : d ++ [p.beside.name] ≠ d ++ [p.name] := by simp

variable (drafted : Drafted t p d bytes t₁ t₂)

include drafted

/-- The temporary file is found, and the folder above it still is. -/
theorem found : t₁.Keeps t₂ ∧ t₂.find p.parent = .ok (d, .folder) ∧
    t₂.find p.beside = .ok (d ++ [p.beside.name], .file bytes) :=
  find_put_beside drafted.above drafted.takes drafted.tree

/-- The temporary file takes the place of the old one when the path can take a file. -/
theorem replaces (sound : t.Sound) (noNull : p.hasNull = false) (noDots : p.name ≠ "..")
    (takes : Takes t₁ p d) : ∃ t₃, replace t₂ p.beside p = .ok t₃
      ∧ Moved t₂ t₃ (d ++ [p.beside.name]) (d ++ [p.name]) bytes := by
  obtain ⟨sound₁, -, -⟩ := made_of_ensureFolder sound drafted.made
  obtain ⟨keeps, above, source⟩ := drafted.found
  have folder := (find_eq_ok_iff.mp drafted.above).2
  have sound₂ : t₂.Sound := drafted.tree ▸ sound₁.put drafted.takes.free
    (by rw [List.dropLast_concat]; exact folder) _
  have free : t₂.entry? (d ++ [p.name]) ≠ some .folder := by
    rw [drafted.tree, entry?_put_of_ne _ (apart d p).symm]
    exact takes.free
  exact replace_of_takes sound₂ ⟨drafted.noNull, noNull⟩ ⟨p.name_beside_ne_empty, drafted.named⟩
    noDots source (above_of_find above) (takes.keeps keeps free)

/-- The temporary file took the place of the old one where the path can take a file. -/
theorem of_replace (sound : t.Sound) {t₃ : Tree} (replaced : replace t₂ p.beside p = .ok t₃) :
    p.hasNull = false ∧ p.name ≠ ".." ∧ Takes t₁ p d
      ∧ Moved t₂ t₃ (d ++ [p.beside.name]) (d ++ [p.name]) bytes ∧ t₂.Keeps t₃ := by
  obtain ⟨keeps, above, source⟩ := drafted.found
  obtain ⟨noNull, noDots, takes₂⟩ := takes_of_replace drafted.named (above_of_find above) source
    (apart d p) replaced
  have takes : Takes t₁ p d := by
    refine ⟨?_, fun folder => takes₂.free (keeps.folder _ folder)⟩
    rw [locate_named drafted.named noDots (above_of_find drafted.above),
      ← locate_named drafted.named noDots (above_of_find above)]
    exact takes₂.located
  obtain ⟨t', replaced', moved⟩ := drafted.replaces sound noNull noDots takes
  obtain rfl : t₃ = t' := Except.ok.inj (replaced.symm.trans replaced')
  exact ⟨noNull, noDots, takes, moved, moved.keeps (find_eq_ok_iff.mp source).2 takes₂.free⟩

/-- Afterwards the file is found with the new contents. -/
theorem find_of_replace (sound : t.Sound) {t₃ : Tree} (replaced : replace t₂ p.beside p = .ok t₃) :
    t₃.find p = .ok (d ++ [p.name], .file bytes) := by
  obtain ⟨-, -, takes, moved, keeps⟩ := drafted.of_replace sound replaced
  exact find_eq_ok_iff.mpr ⟨(drafted.found.1.trans keeps).locate takes.located, moved.there⟩

end Drafted

/-- Contents that have bytes are saved to a writable path. -/
theorem saveContents_of_writable (sound : t.Sound) (w : Writable t p) (ofFault : Fault → ε)
    (bytes : Bytes) : (saveContents ofFault t p (.ok (.ok bytes))).1 = .ok () := by
  obtain ⟨noNull, named, noDots, above, free, freeBeside⟩ := w
  generalize made : ensureFolder t p.parent = outcome₁ at above free freeBeside
  obtain ⟨r, t₁⟩ := outcome₁
  subst above
  obtain ⟨-, -, d, found⟩ := made_of_ensureFolder sound made
  have noNullBeside : p.beside.hasNull = false := (Path.hasNull_beside named).trans noNull
  have foundBeside : t₁.find p.beside.parent = .ok (d, .folder) := by
    rw [Path.parent_beside, found]
  have takes := takes_of_isFolder noNull named noDots (above_of_find found) free
  have takesBeside := takes_of_isFolder noNullBeside p.name_beside_ne_empty p.name_beside_ne_dots
    (above_of_find foundBeside) freeBeside
  have written := takesBeside.writeBytes noNullBeside bytes
  have drafted : Drafted t p d bytes t₁ (t₁.put (d ++ [p.beside.name]) (.file bytes)) :=
    ⟨made, named, found, noNullBeside, takesBeside, rfl⟩
  obtain ⟨t₃, replaced, -⟩ := drafted.replaces sound noNull noDots takes
  have temp : temporary p = .ok p.beside := if_neg named
  simp only [saveContents, made, temp, Except.toOption, Option.getD_some, written, replaced]

/-- A path to which contents were saved was writable, and the contents have bytes. -/
theorem writable_of_saveContents (sound : t.Sound)
    (h : (saveContents ofFault t p contents).1 = .ok ()) :
    Writable t p ∧ ∃ bytes, contents = .ok (.ok bytes) := by
  have course := course_saveContents (p := p) sound ofFault contents
  generalize saveContents ofFault t p contents = outcome at h course
  cases course with
  | early why grown => cases h
  | halfway why drafted => cases h
  | @done t₁ t₂ t₃ d bytes drafted given replaced =>
    obtain ⟨noNull, noDots, takes, -, -⟩ := drafted.of_replace sound replaced
    refine ⟨⟨noNull, drafted.named, noDots, ?_, ?_, ?_⟩, bytes, given⟩
    · rw [drafted.made]
    · rw [drafted.made]
      exact takes.isFolder
    · rw [drafted.made]
      exact drafted.takes.isFolder

/-- In a sound tree contents are saved exactly when they have bytes and the path is writable. -/
theorem saveContents_ok_iff (sound : t.Sound) : (saveContents ofFault t p contents).1 = .ok () ↔
    Writable t p ∧ ∃ bytes, contents = .ok (.ok bytes) := by
  constructor
  · exact writable_of_saveContents sound
  · rintro ⟨w, bytes, rfl⟩
    exact saveContents_of_writable sound w ofFault bytes

/-- A value is saved to a writable path. -/
theorem saveValue_of_writable (sound : t.Sound) (w : Writable t p) (v : Value) :
    ∃ t', saveValue t p v = (.ok (), t') ∧ Saved t' p v := by
  have success := saveContents_of_writable sound w id (encode (Json.page v))
  have course := course_saveContents (p := p) sound id (.ok (.ok (encode (Json.page v))))
  unfold saveValue
  generalize saveContents id t p (.ok (.ok (encode (Json.page v)))) = outcome at success course
  cases course with
  | early why grown => cases success
  | halfway why drafted => cases success
  | @done t₁ t₂ t₃ d bytes drafted given replaced =>
    cases given
    have found := drafted.find_of_replace sound replaced
    obtain ⟨noNull, -⟩ := drafted.of_replace sound replaced
    refine ⟨t₃, rfl, ?_, ?_⟩
    · exact ask_eq_true_iff.mpr ⟨noNull, _, _, found, rfl⟩
    · exact readBytes_eq_ok_iff.mpr ⟨noNull, _, found⟩

/-- A value that a text keeps is read back from the file in which it was saved. -/
theorem Saved.readValue {v : Value} (saved : Saved t p v) (kept : v.Kept) :
    readValue t p = .ok v := by
  have text : readText t p = .ok (Json.page v) := by
    simp only [readText, saved.text, bind, Except.bind, decode_encode,
      unifyNewlines_of_not_mem (Json.carriage_not_mem_page kept), String.ofList_toList]
  unfold Files.readValue
  rw [text]
  exact mapError_eq_ok_iff.mpr (Json.read_page kept)

end Deskwork.Files
