/-
# Transfers within a Tree

A path leads to the place that its text names once the double dots in it are cancelled
(`Tree.locate_eq_resolve`). A file is copied or moved to the place to which the path of the destination
leads, or into the folder there, and everything else stands where it stood (`Landed`); or else the tree
is left alone, and no other file stood there (`lands_copy`, `lands_move`).
-/
import Deskwork.Proofs.Files.Moving
import Deskwork.Step.FileSystem

namespace Deskwork.Files

open Deskwork.Text Deskwork.Files.Tree

/-! ## Places by their texts -/

/-- Parts without double dots are kept when double dots are cancelled. -/
theorem Path.cancelDots_append {front : List String} (proper : ".." ∉ front)
    (above rest : List String) :
    cancelDots above (front ++ rest) = cancelDots (front.reverse ++ above) rest := by
  induction front generalizing above with
  | nil => rfl
  | cons part front ih =>
    rw [List.mem_cons, not_or] at proper
    rw [List.cons_append, cancelDots, if_neg (Ne.symm proper.1), ih proper.2, List.reverse_cons,
      List.append_assoc, List.singleton_append]

variable {t t' : Tree} {p src dst : Path} {a b d : Place} {bytes old : Bytes}

/-- A way leads to the place that is left when its double dots are cancelled. -/
theorem Tree.walk_eq_cancelDots {here place : Place} {ps : List String}
    (h : t.walk here ps = .ok place) : place = Path.cancelDots here.reverse ps := by
  induction ps generalizing here with
  | nil =>
    cases h
    exact (List.reverse_reverse _).symm
  | cons part ps ih =>
    rw [walk] at h
    rw [Path.cancelDots]
    split at h
    · cases h
    · cases h
    · split at h
      case isTrue dots =>
        rw [if_pos dots, List.tail_reverse]
        exact ih h
      case isFalse name =>
        split at h
        · cases h
        · have further := ih h
          rw [List.reverse_append] at further
          rw [if_neg name]
          exact further

/-- A path leads to the place that its text names, seen from a working folder without double dots. -/
theorem Tree.locate_eq_resolve (proper : ".." ∉ t.home) (h : t.locate p = .ok b) :
    b = p.resolve t.home := by
  have whole := walk_eq_cancelDots (locate_eq_ok_iff.mp h).2
  unfold start at whole
  unfold Path.resolve
  split at whole
  case isTrue relative =>
    rw [if_pos relative, Path.cancelDots_append proper, List.append_nil]
    exact whole
  case isFalse absolute =>
    rw [if_neg absolute]
    exact whole

/-! ## Free places -/

/-- What a path leads to is asked for when no character forbids it. -/
theorem ask_of_find (noNull : p.hasNull = false) {e : Entry} (found : t.find p = .ok (a, e))
    (kind : Entry → Bool) : ask t p kind = .ok (kind e) := by
  simp [ask, noNull, found]

/-- Whether there is a folder is known when it is known whether there is anything. -/
theorem exists_of_isFolder_error {why : Fault} (h : isFolder t p = .error why) :
    exists? t p = .error why := by
  unfold exists? ask
  unfold isFolder ask at h
  split at h
  · cases h
  case isFalse noNull =>
    rw [if_neg noNull]
    split at h
    · cases h
    · cases h
    · cases h
    · exact h

/-- What exists is found. -/
theorem exists_find_of_exists (there : exists? t p = .ok true) : ∃ a e, t.find p = .ok (a, e) := by
  obtain ⟨-, a, e, found, -⟩ := ask_eq_true_iff.mp there
  exact ⟨a, e, found⟩

/-- A path at which nothing stands, below a folder, ends in a proper name and can take a file. -/
theorem takes_of_free (sound : t.Sound) (noNull : p.hasNull = false) (named : p.name ≠ "")
    (above : t.Above p d) (free : exists? t p = .ok false) :
    p.name ≠ ".." ∧ Takes t p d ∧ t.entry? (d ++ [p.name]) = none := by
  have nothing {place : Place} (located : t.locate p = .ok place) : t.entry? place = none := by
    cases there : t.entry? place with
    | none => rfl
    | some e =>
      have found := ask_of_find noNull (find_eq_ok_iff.mpr ⟨located, there⟩) fun _ => true
      rw [exists?, found] at free
      cases free
  have fits : t.locate p ≠ .error .longName := by
    intro long
    simp [exists?, ask, noNull, Tree.find, long] at free
  have noDots : p.name ≠ ".." := by
    intro dots
    -- a double dot leads to the folder above, which is there
    have up : t.locate p = .ok d.dropLast := by
      have whole : t.walk (t.start p) p.parts = .ok d.dropLast := by
        rw [Path.parts_eq named, walk_append, above.way]
        simp only [bind, Except.bind, walk, above.folder, if_pos dots]
      by_cases long : pathLimit < p.toString.utf8ByteSize
      · exact absurd (if_pos long) fits
      · exact locate_eq_ok_iff.mpr ⟨Nat.le_of_not_lt long, whole⟩
    have folder := sound.dropLast above.folder
    rw [nothing up] at folder
    cases folder
  have located := locate_named named noDots above
  split at located
  · exact absurd located fits
  · have none := nothing located
    refine ⟨noDots, ⟨located, ?_⟩, none⟩
    rw [none]
    rintro ⟨⟩

/-- A path that a text writes has a name when no folder stands at it. -/
theorem name_ne_empty_of_not_folder (sound : t.Sound) {path : String}
    (noNull : (Path.ofString path).hasNull = false)
    (free : isFolder t (Path.ofString path) = .ok false) : (Path.ofString path).name ≠ "" := by
  obtain ⟨fits, noFolder⟩ := not_folder_of_isFolder noNull free
  apply Path.name_ofString_ne_empty
  intro nothing
  by_cases long : pathLimit < (Path.ofString path).toString.utf8ByteSize
  · exact fits (if_pos long)
  · refine noFolder _ (locate_eq_ok_iff.mpr ⟨Nat.le_of_not_lt long, ?_⟩) (sound.start (Path.ofString path))
    rw [nothing]
    rfl

/-! ## A tree without a file -/

/-- Folders are kept when a file is taken away. -/
theorem keeps_erase (file : t.entry? b = some (.file old)) : t.Keeps (t.erase b) where
  home := rfl
  folder := by
    intro q folder
    rw [entry?_erase_of_ne t (ne_of_folder_of_file folder file), folder]

/-- A tree stays sound when a file is taken away. -/
theorem Tree.Sound.erase (sound : t.Sound) (file : t.entry? b = some (.file old)) :
    (t.erase b).Sound where
  above e mem := (keeps_erase file).folder _ (sound.above e (List.mem_filter.mp mem).1)
  home := (keeps_erase file).folder _ sound.home

/-! ## Landing -/

/-- The path at which a transferred file lands: a copy lands inside a folder. -/
def landing (v : TransferVerb) (t : Tree) (src dst : Path) : Path :=
  match v with
  | .copy => if (isFolder t dst).toOption.getD false then dst.child src.name else dst
  | .move => dst

/-- A file was copied or moved from one place to another one: it stands there, and everything else
stands where it stood, except that a file which was moved has left its old place. -/
structure Landed (v : TransferVerb) (t t' : Tree) (a b : Place) (bytes : Bytes) : Prop where
  /-- The new place is another one. -/
  apart : b ≠ a
  /-- No folder stood there. -/
  free : t.entry? b ≠ some .folder
  /-- The file stands at its new place. -/
  there : t'.entry? b = some (.file bytes)
  /-- A file that was moved has left its old place. -/
  gone : v = .move → t'.entry? a = none
  /-- All else is as it was. -/
  others : ∀ q, q ≠ b → (v = .move → q ≠ a) → t'.entry? q = t.entry? q
  /-- Folders are kept. -/
  keeps : t.Keeps t'

/-- The outcome of a transfer: it fails and leaves the tree alone, and no other file stands where it
would have landed; or the file lands. -/
inductive Lands (v : TransferVerb) (t : Tree) (src dst : Path) (a : Place) (bytes : Bytes) :
    Outcome → Prop where
  /-- It fails. -/
  | failed (why : Fault)
      (noOther : ∀ b old, t.find (landing v t src dst) = .ok (b, .file old) → b = a) :
      Lands v t src dst a bytes (.error why, t)
  /-- The file lands. -/
  | landed {b : Place} {t' : Tree} (located : t.locate (landing v t src dst) = .ok b)
      (landed : Landed v t t' a b bytes) : Lands v t src dst a bytes (.ok (), t')

/-- The path at which a copy lands holds no null character when the given paths do not. -/
theorem hasNull_landing (v : TransferVerb) (noNull : src.hasNull = false ∧ dst.hasNull = false)
    (named : src.name ≠ "") : (landing v t src dst).hasNull = false := by
  cases v with
  | move => exact noNull.2
  | copy =>
    unfold landing
    dsimp only
    split
    · have parts := noNull.1
      rw [Path.hasNull, Path.parts_eq named] at parts
      simp only [List.any_append, Bool.or_eq_false_iff] at parts
      have whole : (dst.child src.name).hasNull = (dst.hasNull || [src.name].any _) :=
        List.any_append
      rw [whole, noNull.2, parts.2]
      rfl
    · exact noNull.2

/-- A copy lands, unless the path leads to the file itself or can take no file. -/
theorem lands_copy (noNull : src.hasNull = false ∧ dst.hasNull = false) (named : src.name ≠ "")
    (source : t.find src = .ok (a, .file bytes)) :
    Lands .copy t src dst a bytes (TransferVerb.copy.transfer t src dst) := by
  have noNullLanding := hasNull_landing (t := t) .copy noNull named
  have contents : readBytes t src = .ok bytes := readBytes_eq_ok_iff.mpr ⟨noNull.1, a, source⟩
  have unfolded : TransferVerb.copy.transfer t src dst
      = outcome t (if sameEntry t src (landing .copy t src dst) then
          .error (.sameFile src (landing .copy t src dst).toString)
        else writeBytes t (landing .copy t src dst) bytes) := by
    simp only [TransferVerb.transfer, copyFile, contents]
    rfl
  rw [unfolded]
  generalize onto : landing .copy t src dst = target at noNullLanding
  by_cases same : sameEntry t src target = true
  · rw [if_pos same]
    refine .failed _ ?_
    intro b old found
    rw [onto] at found
    have both : a = b := by simpa [sameEntry, source, found] using same
    exact both.symm
  · rw [if_neg same]
    cases written : writeBytes t target bytes with
    | error why =>
      refine .failed _ ?_
      intro b old found
      rw [onto] at found
      obtain ⟨located, there⟩ := find_eq_ok_iff.mp found
      simp [writeBytes, onPath, noNullLanding, located, there, bind, Except.bind, Except.mapError]
        at written
    | ok t' =>
      obtain ⟨-, b, located, free, rfl⟩ := place_of_writeBytes written
      have apart : b ≠ a := by
        rintro rfl
        have found := find_eq_ok_iff.mpr ⟨located, (find_eq_ok_iff.mp source).2⟩
        simp [sameEntry, source, found] at same
      refine .landed (by rw [onto]; exact located) ⟨apart, free, ?_, ?_, ?_, ?_⟩
      · exact entry?_put_self t (ne_root free) _
      · rintro ⟨⟩
      · intro q other _
        exact entry?_put_of_ne t other _
      · exact keeps_put free _

/-- A file is moved to a place that is free or has become so. -/
theorem landed_of_replace {u : Tree} (sound : u.Sound)
    (noNull : src.hasNull = false ∧ dst.hasNull = false)
    (named : src.name ≠ "" ∧ dst.name ≠ "") (noDots : dst.name ≠ "..")
    (source : u.find src = .ok (a, .file bytes)) (above : u.Above dst d) (target : Takes u dst d)
    (apart : d ++ [dst.name] ≠ a) (keeps : t.Keeps u)
    (free : t.entry? (d ++ [dst.name]) ≠ some .folder)
    (others : ∀ q, q ≠ d ++ [dst.name] → u.entry? q = t.entry? q) :
    ∃ t', moveFile u src dst = (.ok (), t') ∧ Landed .move t t' a (d ++ [dst.name]) bytes := by
  obtain ⟨t', replaced, moved⟩ := replace_of_takes sound noNull named noDots source above target
  have file := (find_eq_ok_iff.mp source).2
  refine ⟨t', by rw [moveFile, replaced], apart, free, moved.there, ?_, ?_, ?_⟩
  · exact fun _ => moved.gone apart.symm
  · intro q new old
    rw [moved.others q (old rfl) new, others q new]
  · exact keeps.trans (moved.keeps file target.free)

/-- A file that stands at the destination makes room for the one that is moved there. -/
theorem landed_onto_file (sound : t.Sound) (noNull : src.hasNull = false ∧ dst.hasNull = false)
    (named : src.name ≠ "" ∧ dst.name ≠ "") (source : t.find src = .ok (a, .file bytes))
    (found : t.find dst = .ok (b, .file old)) (apart : b ≠ a) :
    ∃ t', removeFile t dst = .ok (t.erase b) ∧ moveFile (t.erase b) src dst = (.ok (), t')
      ∧ Landed .move t t' a b bytes := by
  obtain ⟨noDots, d, above, target, rfl⟩ := takes_of_file sound named.2 found
  have file := (find_eq_ok_iff.mp found).2
  have removed : removeFile t dst = .ok (t.erase (d ++ [dst.name])) :=
    onPath_eq_ok_iff.mpr ⟨noNull.2, by rw [found]; rfl⟩
  have keeps := keeps_erase file
  obtain ⟨located, stands⟩ := find_eq_ok_iff.mp source
  have source' : (t.erase (d ++ [dst.name])).find src = .ok (a, .file bytes) := by
    rw [find_eq_ok_iff, entry?_erase_of_ne t apart.symm]
    exact ⟨keeps.locate located, stands⟩
  have cleared := entry?_erase_self t (snoc_ne_root d dst.name)
  have target' : Takes (t.erase (d ++ [dst.name])) dst d := target.keeps keeps (by simp [cleared])
  obtain ⟨t', moved, landed⟩ := landed_of_replace (sound.erase file) noNull named noDots source'
    (above.keeps keeps) target' apart keeps target.free fun _ => entry?_erase_of_ne t
  exact ⟨t', removed, moved, landed⟩

/-- A file that is moved lands, unless a folder has the path or it is too long. -/
theorem lands_move (sound : t.Sound) (noNull : src.hasNull = false ∧ dst.hasNull = false)
    (named : src.name ≠ "" ∧ dst.name ≠ "") (source : t.find src = .ok (a, .file bytes))
    (above : t.Above dst d) (apart : ∀ b, t.locate dst = .ok b → b ≠ a) :
    Lands .move t src dst a bytes (TransferVerb.move.transfer t src dst) := by
  unfold TransferVerb.transfer
  dsimp only
  cases there : exists? t dst with
  | error why =>
    refine .failed _ ?_
    intro b old found
    rw [exists?, ask_of_find noNull.2 found] at there
    cases there
  | ok taken =>
    cases taken with
    | false =>
      obtain ⟨noDots, target, free⟩ := takes_of_free sound noNull.2 named.2 above there
      obtain ⟨t', moved, landed⟩ := landed_of_replace sound noNull named noDots source above target
        (apart _ target.located) ⟨rfl, fun _ => id⟩ target.free fun _ _ => rfl
      dsimp only
      rw [moved]
      exact .landed target.located landed
    | true =>
      obtain ⟨b, e, found⟩ := exists_find_of_exists there
      dsimp only
      cases e with
      | folder =>
        -- a folder is not removed to make room
        have refused : removeFile t dst = .error (.refused .isFolder dst.toString none) := by
          simp [removeFile, onPath, noNull.2, found, bind, Except.bind, Except.mapError]
        rw [refused]
        refine .failed _ ?_
        intro b' old found'
        rw [landing, found] at found'
        cases found'
      | file old =>
        have located := (find_eq_ok_iff.mp found).1
        obtain ⟨t', removed, moved, landed⟩ :=
          landed_onto_file sound noNull named source found (apart _ located)
        rw [removed]
        dsimp only
        rw [moved]
        exact .landed located landed

end Deskwork.Files
