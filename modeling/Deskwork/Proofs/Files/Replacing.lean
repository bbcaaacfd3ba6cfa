/-
# Old or New

Whatever is handed over to be saved, and wherever: either the file holds the text of it afterwards and the
temporary file is gone (`Replaced`), or what stood at the path still stands there (`Unreplaced`). In both
cases no other file was changed, added or taken away, and at most folders are new (`savePayload_old_or_new`).
Nothing is lost because the path and that of the temporary file lead to different places
(`locate_beside_ne`).
-/
import Deskwork.Files.Payload
import Deskwork.Proofs.Files.Saving

namespace Deskwork.Files

open Deskwork.Text Deskwork.Files.Tree

variable {t t' t₁ t₂ t₃ : Tree} {p : Path} {d b : Place} {bytes : Bytes}
  {ε : Type}

/-! ## Two places -/

/-- A path and that of the temporary file lead to different places, also when the path ends in a double dot
or has no name. -/
theorem locate_beside_ne (located : t.locate p = .ok b) : t.locate p.beside ≠ .ok b := by
  intro beside
  have way := (locate_eq_ok_iff.mp located).2
  have wayBeside := (locate_eq_ok_iff.mp beside).2
  rw [Path.parts_eq p.name_beside_ne_empty] at wayBeside
  obtain ⟨d, above, -, there⟩ := walk_snoc wayBeside
  rw [if_neg p.name_beside_ne_dots, Path.name_beside] at there
  have begins : t.start p.beside = t.start p := rfl
  rw [begins, Path.parent_beside] at above
  unfold Path.parent at above
  rcases List.eq_nil_or_concat p.parts with none | ⟨front, last, whole⟩
  · rw [none] at way above
    have same : Except.ok b = Except.ok d := way.symm.trans above
    have longer := congrArg List.length ((Except.ok.inj same).symm.trans there)
    simp at longer
  · rw [List.concat_eq_append] at whole
    have name : p.name = last := by simp [Path.name, whole]
    rw [whole] at way above
    rw [List.dropLast_concat] at above
    obtain ⟨d', above', -, here⟩ := walk_snoc way
    obtain rfl : d = d' := Except.ok.inj (above.symm.trans above')
    rw [there, name] at here
    split at here
    · have longer := congrArg List.length here
      simp only [List.length_append, List.length_singleton, List.length_dropLast] at longer
      omega
    · simp at here

/-! ## What may happen to a tree -/

/-- At a place nothing was changed, except that a folder may be new. -/
def Undisturbed (t t' : Tree) (q : Place) : Prop :=
  t'.entry? q = t.entry? q ∨ t.entry? q = none ∧ t'.entry? q = some .folder

/-- The file at a path holds new contents, the temporary file is gone, and everything else is as it was,
except that folders may be new. -/
structure Replaced (t t' : Tree) (p : Path) (bytes : Bytes) : Prop where
  /-- The contents are read back. -/
  text : readBytes t' p = .ok bytes
  /-- There is no temporary file. -/
  cleared : exists? t' p.beside = .ok false
  /-- All else is undisturbed. -/
  others : ∀ q, t'.locate p ≠ .ok q → t'.locate p.beside ≠ .ok q → Undisturbed t t' q

/-- What stood at a path still stands there, and so does everything else but for the temporary file. -/
structure Unreplaced (t t' : Tree) (p : Path) : Prop where
  /-- What was found is found. -/
  found : ∀ b e, t.find p = .ok (b, e) → t'.find p = .ok (b, e)
  /-- Everything but the temporary file is undisturbed. -/
  others : ∀ q, t'.locate p.beside ≠ .ok q → Undisturbed t t' q
  /-- The place of the temporary file is not the one to which the path leads. -/
  apart : ∀ b, t'.locate p = .ok b → t'.locate p.beside ≠ .ok b

/-- Files that stand at undisturbed places are the same, and none is new. -/
theorem Undisturbed.fileAt? {q : Place} (h : Undisturbed t t' q) : t'.fileAt? q = t.fileAt? q := by
  unfold Tree.fileAt?
  rcases h with same | ⟨free, new⟩
  · rw [same]
  · rw [free, new]

/-- Where only folders are new, what stood at a path still stands there. -/
theorem unreplaced_of_grown (grown : t.Grown t') : Unreplaced t t' p := by
  constructor
  · intro b e found
    obtain ⟨located, there⟩ := find_eq_ok_iff.mp found
    exact find_eq_ok_iff.mpr ⟨grown.keeps.locate located, grown.stays there⟩
  · intro q _
    exact grown.entry q
  · intro b located
    exact locate_beside_ne located

/-- When the temporary file has been written, what stood at the path still stands there. -/
theorem Drafted.unreplaced (drafted : Drafted t p d bytes t₁ t₂) : Unreplaced t t₂ p := by
  have grown := grown_of_ensureFolder drafted.made
  obtain ⟨keeps, -, draft⟩ := drafted.found
  have leads := (find_eq_ok_iff.mp draft).1
  have elsewhere (q : Place) (other : t₂.locate p.beside ≠ .ok q) : t₂.entry? q = t₁.entry? q := by
    have differ : q ≠ d ++ [p.beside.name] := by
      rintro rfl
      exact other leads
    rw [drafted.tree]
    exact entry?_put_of_ne t₁ differ _
  constructor
  · intro b e found
    obtain ⟨located, there⟩ := find_eq_ok_iff.mp found
    have located₂ := (grown.keeps.trans keeps).locate located
    refine find_eq_ok_iff.mpr ⟨located₂, ?_⟩
    rw [elsewhere b (locate_beside_ne located₂)]
    exact grown.stays there
  · intro q other
    unfold Undisturbed
    rw [elsewhere q other]
    exact grown.entry q
  · intro b located
    exact locate_beside_ne located

/-- When the temporary file has taken the place of the old one, the contents are new. -/
theorem Drafted.replaced (drafted : Drafted t p d bytes t₁ t₂) (sound : t.Sound)
    (done : replace t₂ p.beside p = .ok t₃) : Replaced t t₃ p bytes := by
  have grown := grown_of_ensureFolder drafted.made
  obtain ⟨noNull, noDots, takes, moved, keeps⟩ := drafted.of_replace sound done
  have found := drafted.find_of_replace sound done
  have leads := (find_eq_ok_iff.mp found).1
  have leadsBeside := keeps.locate (find_eq_ok_iff.mp drafted.found.2.2).1
  constructor
  · exact readBytes_eq_ok_iff.mpr ⟨noNull, _, found⟩
  · have gone := moved.gone (Drafted.apart d p)
    simp only [exists?, ask, drafted.noNull, Tree.find, leadsBeside, gone, Bool.false_eq_true, if_false]
  · intro q other otherBeside
    have here : q ≠ d ++ [p.name] := by
      rintro rfl
      exact other leads
    have beside : q ≠ d ++ [p.beside.name] := by
      rintro rfl
      exact otherBeside leadsBeside
    unfold Undisturbed
    rw [moved.others q beside here, drafted.tree, entry?_put_of_ne t₁ beside]
    exact grown.entry q

/-! ## Saving -/

/-- When contents are saved, the file holds them afterwards, or else it is unreplaced. -/
theorem saveContents_old_or_new (sound : t.Sound) (ofFault : Fault → ε)
    (contents : Except ε (Except ε Bytes)) :
    ((saveContents ofFault t p contents).1 = .ok () → ∃ bytes, contents = .ok (.ok bytes)
        ∧ Replaced t (saveContents ofFault t p contents).2 p bytes)
      ∧ ((saveContents ofFault t p contents).1 ≠ .ok () →
        Unreplaced t (saveContents ofFault t p contents).2 p) := by
  have course := course_saveContents (p := p) sound ofFault contents
  generalize saveContents ofFault t p contents = outcome at course ⊢
  cases course with
  | early why grown => exact ⟨nofun, fun _ => unreplaced_of_grown grown⟩
  | halfway why drafted => exact ⟨nofun, fun _ => drafted.unreplaced⟩
  | @done t₁ t₂ t₃ d bytes drafted given done =>
    exact ⟨fun _ => ⟨bytes, given, drafted.replaced sound done⟩, fun h => absurd rfl h⟩

/-- What is saved of a payload is the text of the value that it is, when it holds no half of a pair of
surrogates. -/
theorem Payload.contents_eq_ok_iff {x : Payload} : x.contents = .ok (.ok bytes) ↔
    ∃ v, x.value = .ok v ∧ x.isHalved = false ∧ encode (Json.page v) = bytes := by
  unfold contents
  refine map_eq_ok_iff.trans ?_
  apply exists_congr
  intro v
  apply and_congr_right
  intro _
  cases x.isHalved with
  | true => simp
  | false => simp

/-- A payload is saved exactly when it has a text that has bytes and the path is writable. Then the file
holds the text, and the temporary file is gone; otherwise what stood at the path still stands there. In both
cases no other file is changed, new or gone. -/
theorem savePayload_old_or_new (t : Tree) (sound : t.Sound) (p : Path) (x : Payload) :
    let t' := (savePayload t p x).2
    ((savePayload t p x).1 = .ok () ↔ Writable t p ∧ (∃ v, x.value = .ok v) ∧ x.isHalved = false)
      ∧ ((savePayload t p x).1 = .ok () → ∃ v, x.value = .ok v
        ∧ Replaced t t' p (encode (Json.page v)))
      ∧ ((savePayload t p x).1 ≠ .ok () → Unreplaced t t' p)
      ∧ ∀ q, t'.locate p ≠ .ok q → t'.locate p.beside ≠ .ok q → t'.fileAt? q = t.fileAt? q := by
  intro t'
  obtain ⟨new, old⟩ := saveContents_old_or_new (p := p) sound .file x.contents
  refine ⟨?_, ?_, old, ?_⟩
  · unfold savePayload
    rw [saveContents_ok_iff sound]
    apply and_congr_right
    intro _
    constructor
    · rintro ⟨bytes, given⟩
      obtain ⟨v, value, whole, -⟩ := Payload.contents_eq_ok_iff.mp given
      exact ⟨⟨v, value⟩, whole⟩
    · rintro ⟨⟨v, value⟩, whole⟩
      exact ⟨_, Payload.contents_eq_ok_iff.mpr ⟨v, value, whole, rfl⟩⟩
  · intro success
    obtain ⟨bytes, given, replaced⟩ := new success
    obtain ⟨v, value, -, rfl⟩ := Payload.contents_eq_ok_iff.mp given
    exact ⟨v, value, replaced⟩
  · intro q other beside
    by_cases success : (savePayload t p x).1 = .ok ()
    · obtain ⟨bytes, -, replaced⟩ := new success
      exact (replaced.others q other beside).fileAt?
    · exact ((old success).others q beside).fileAt?

/-- An old file. -/
def onlyOld : Tree := ⟨[(["s.json"], .file (encode "old"))], []⟩

/-- It stands in a folder. -/
theorem sound_onlyOld : onlyOld.Sound := by
  constructor
  · intro e mem
    obtain rfl := List.mem_singleton.mp mem
    rfl
  · rfl

/-- A payload with a number for a name. -/
def numbered : Payload := .object [(.scalar (.int 1), .list [.scalar (.text "é"), .scalar .null])]

/-- The text of the payload takes the place of the old file, but a set is not saved, and half of a pair of
surrogates leaves a temporary file beside the old one. -/
theorem savePayload_old_or_new_numbered :
    let p := Path.ofString "s.json"
    onlyOld.Sound
      ∧ ((savePayload onlyOld p numbered).1 = .ok () ∧ Replaced onlyOld (savePayload onlyOld p numbered).2 p
        (encode "\x7b\n  \"1\": [\n    \"é\",\n    null\n  ]\n\x7d"))
      ∧ ((savePayload onlyOld p (.list [numbered, .foreign "set"])).1 = .error (.foreign "set")
        ∧ Unreplaced onlyOld (savePayload onlyOld p (.list [numbered, .foreign "set"])).2 p)
      ∧ ((savePayload onlyOld p (.object [(.halved, numbered)])).1 = .error .halved
        ∧ exists? (savePayload onlyOld p (.object [(.halved, numbered)])).2 p.beside = .ok true
        ∧ Unreplaced onlyOld (savePayload onlyOld p (.object [(.halved, numbered)])).2 p) := by
  intro p
  have success : (savePayload onlyOld p numbered).1 = .ok () := by decide +kernel
  have refused : (savePayload onlyOld p (.list [numbered, .foreign "set"])).1 = .error (.foreign "set") := by
    decide +kernel
  have torn : (savePayload onlyOld p (.object [(.halved, numbered)])).1 = .error .halved := by
    decide +kernel
  refine ⟨sound_onlyOld, ⟨success, ?_⟩, ⟨refused, ?_⟩, torn, by decide +kernel, ?_⟩
  · obtain ⟨v, value, replaced⟩ := (savePayload_old_or_new onlyOld sound_onlyOld p numbered).2.1 success
    cases value
    exact replaced
  · exact (savePayload_old_or_new onlyOld sound_onlyOld p _).2.2.1 (by simp [refused])
  · exact (savePayload_old_or_new onlyOld sound_onlyOld p _).2.2.1 (by simp [torn])

end Deskwork.Files
