/-
# Following Paths in a Tree

A tree is sound when everything stands in a folder (`Tree.Sound`). In a sound tree a path leads to a
place in a folder, and a tree that keeps the folders of another one keeps its ways, too
(`Tree.Keeps.walk`). Making a folder keeps a tree sound, and afterwards the folder is found
(`made_of_ensureFolder`).
-/
import Deskwork.Files.Tree
import Deskwork.Proofs.Results
import Deskwork.Proofs.Tables
import Mathlib.Data.List.Induction

namespace Deskwork.Files

open Deskwork.Text

/-! ## Sound trees -/

namespace Tree

/-- Everything stands in a folder, and so does the work. -/
structure Sound (t : Tree) : Prop where
  /-- What stands somewhere stands in a folder. -/
  above : ∀ e ∈ t.entries, t.entry? e.1.dropLast = some .folder
  /-- The working folder is there. -/
  home : t.entry? t.home = some .folder

/-- A tree keeps the folders of another one. -/
structure Keeps (t t' : Tree) : Prop where
  /-- The working folder is the same. -/
  home : t'.home = t.home
  /-- Every folder is still one. -/
  folder : ∀ d, t.entry? d = some .folder → t'.entry? d = some .folder

variable {t t' t'' : Tree}

/-- Folders that are kept twice are kept. -/
theorem Keeps.trans (h : t.Keeps t') (h' : t'.Keeps t'') : t.Keeps t'' :=
  ⟨h'.home.trans h.home, fun d there => h'.folder d (h.folder d there)⟩

/-- The root is a folder. -/
@[simp]
theorem entry?_root (t : Tree) : t.entry? [] = some .folder := rfl

/-- Any other place is looked up among the entries. -/
theorem entry?_of_ne (t : Tree) {p : Place} (h : p ≠ []) : t.entry? p = Table.get? t.entries p :=
  if_neg h

/-- A place that is no folder is not the root. -/
theorem ne_root {p : Place} (h : t.entry? p ≠ some .folder) : p ≠ [] := fun root =>
  h (root ▸ entry?_root t)

/-- A place in a folder is not the root. -/
theorem snoc_ne_root (d : Place) (name : String) : d ++ [name] ≠ [] :=
  List.append_ne_nil_of_right_ne_nil d (List.cons_ne_nil name [])

/-- What stands at a place stands in a folder. -/
theorem Sound.dropLast (sound : t.Sound) {p : Place} {e : Entry} (h : t.entry? p = some e) :
    t.entry? p.dropLast = some .folder := by
  by_cases root : p = []
  · rw [root]
    rfl
  · rw [t.entry?_of_ne root] at h
    exact sound.above _ (Table.mem_of_get? h)

/-- Nothing stands below a file. -/
theorem Sound.below_file (sound : t.Sound) {p : Place} {bytes : Bytes}
    (file : t.entry? p = some (.file bytes)) (rest : List String) {e : Entry}
    (h : t.entry? (p ++ rest) = some e) : rest = [] := by
  induction rest using List.reverseRecOn generalizing e with
  | nil => rfl
  | append_singleton rest name ih =>
    have folder := sound.dropLast h
    rw [← List.append_assoc, List.dropLast_concat] at folder
    obtain rfl := ih folder
    rw [List.append_nil, file] at folder
    cases folder

/-- An entry whose place begins with that of a file is the file. -/
theorem Sound.eq_of_below_file (sound : t.Sound) {p : Place} {bytes : Bytes}
    (file : t.entry? p = some (.file bytes)) {e : Place × Entry} (mem : e ∈ t.entries)
    (below : p.isPrefixOf e.1 = true) : e.1 = p := by
  obtain ⟨rest, whole⟩ := List.isPrefixOf_iff_prefix.mp below
  rcases List.eq_nil_or_concat rest with rfl | ⟨rest, name, rfl⟩
  · rw [← whole, List.append_nil]
  · have folder := sound.above e mem
    rw [← whole, List.concat_eq_append, ← List.append_assoc, List.dropLast_concat] at folder
    obtain rfl := sound.below_file file rest folder
    rw [List.append_nil, file] at folder
    cases folder

/-! ## A new entry -/

/-- The entry that was put at a place stands there. -/
theorem entry?_put_self (t : Tree) {p : Place} (h : p ≠ []) (e : Entry) :
    Tree.entry? (t.put p e) p = some e := by
  rw [entry?_of_ne _ h]
  exact Table.get?_put_self _ _ _

/-- Elsewhere everything stands as before. -/
theorem entry?_put_of_ne (t : Tree) {p q : Place} (h : q ≠ p) (e : Entry) :
    Tree.entry? (t.put p e) q = t.entry? q := by
  by_cases root : q = []
  · rw [root]
    rfl
  · rw [entry?_of_ne _ root, entry?_of_ne _ root]
    exact Table.get?_put_of_ne _ _ h

/-- Folders are kept when an entry is put where no folder stands. -/
theorem keeps_put {p : Place} (free : t.entry? p ≠ some .folder) (e : Entry) :
    t.Keeps (t.put p e) where
  home := rfl
  folder d there := by
    have other : d ≠ p := by
      rintro rfl
      exact free there
    rw [entry?_put_of_ne t other, there]

/-- A tree stays sound when an entry is put into a folder where no folder stands. -/
theorem Sound.put (sound : t.Sound) {p : Place} (free : t.entry? p ≠ some .folder)
    (above : t.entry? p.dropLast = some .folder) (e : Entry) : (t.put p e).Sound where
  above e' mem := by
    refine (keeps_put free e).folder _ ?_
    rcases Table.mem_put mem with rfl | mem
    · exact above
    · exact sound.above e' mem
  home := (keeps_put free e).folder _ sound.home

/-! ## Ways -/

/-- Where a path begins. -/
def start (t : Tree) (p : Path) : Place := if p.slashes = 0 then t.home else []

/-- Paths begin at the same places when the working folder is the same. -/
theorem start_congr (home : t'.home = t.home) (p : Path) : t'.start p = t.start p := by
  simp only [start, home]

/-- A path begins at a folder. -/
theorem Sound.start (sound : t.Sound) (p : Path) : t.entry? (t.start p) = some .folder := by
  unfold Tree.start
  split
  · exact sound.home
  · rfl

/-- A way is followed up to a part of it, and then from there. -/
theorem walk_append (t : Tree) (here : Place) (ps qs : List String) :
    t.walk here (ps ++ qs) = (t.walk here ps >>= fun d => t.walk d qs) := by
  induction ps generalizing here with
  | nil => rfl
  | cons p ps ih =>
    rw [List.cons_append, walk, walk]
    split
    · rfl
    · rfl
    · split
      · exact ih _
      · split
        · rfl
        · exact ih _

/-- The last part of a way leads up, or into the folder to which the other parts lead. -/
theorem walk_snoc {here place : Place} {ps : List String} {name : String}
    (h : t.walk here (ps ++ [name]) = .ok place) :
    ∃ d, t.walk here ps = .ok d ∧ t.entry? d = some .folder
      ∧ place = if name = ".." then d.dropLast else d ++ [name] := by
  rw [walk_append] at h
  obtain ⟨d, above, last⟩ := bind_eq_ok_iff.mp h
  rw [walk] at last
  split at last
  · cases last
  · cases last
  case h_3 folder =>
    refine ⟨d, above, folder, ?_⟩
    split at last
    case isTrue dots =>
      cases last
      exact (if_pos dots).symm
    case isFalse noDots =>
      split at last
      · cases last
      · cases last
        exact (if_neg noDots).symm

/-- A way leads to a place in a folder. -/
theorem Sound.walk (sound : t.Sound) {here place : Place} {ps : List String}
    (start : t.entry? here.dropLast = some .folder) (h : t.walk here ps = .ok place) :
    t.entry? place.dropLast = some .folder := by
  induction ps generalizing here with
  | nil =>
    cases h
    exact start
  | cons p ps ih =>
    rw [Tree.walk] at h
    split at h
    · cases h
    · cases h
    case h_3 there =>
      split at h
      · exact ih (sound.dropLast start) h
      · split at h
        · cases h
        · exact ih (by rw [List.dropLast_concat]; exact there) h

/-- A way is there as long as its folders are. -/
theorem Keeps.walk (keeps : t.Keeps t') {here place : Place} {ps : List String}
    (h : t.walk here ps = .ok place) : t'.walk here ps = .ok place := by
  induction ps generalizing here with
  | nil => exact h
  | cons p ps ih =>
    rw [Tree.walk] at h ⊢
    split at h
    · cases h
    · cases h
    case h_3 there =>
      rw [keeps.folder here there]
      split at h
      case isTrue dots => rw [if_pos dots, ih h]
      case isFalse noDots =>
        split at h
        · cases h
        case isFalse fits => rw [if_neg noDots, if_neg fits, ih h]

/-- A path leads to a place when it is not too long and its parts lead there. -/
theorem locate_eq_ok_iff {p : Path} {place : Place} :
    t.locate p = .ok place
      ↔ p.toString.utf8ByteSize ≤ pathLimit ∧ t.walk (t.start p) p.parts = .ok place := by
  unfold locate
  split
  case isTrue long => simp [Nat.not_le_of_lt long]
  case isFalse fits => exact ⟨fun h => ⟨Nat.le_of_not_lt fits, h⟩, fun h => h.2⟩

/-- A path leads where it led when the folders are kept. -/
theorem Keeps.locate (keeps : t.Keeps t') {p : Path} {place : Place}
    (h : t.locate p = .ok place) : t'.locate p = .ok place := by
  rw [locate_eq_ok_iff] at h ⊢
  refine ⟨h.1, ?_⟩
  rw [start_congr keeps.home]
  exact keeps.walk h.2

/-- What a path leads to. -/
theorem find_eq_ok_iff {p : Path} {place : Place} {e : Entry} :
    t.find p = .ok (place, e) ↔ t.locate p = .ok place ∧ t.entry? place = some e := by
  unfold find
  split
  case h_1 why failed => simp [failed]
  case h_2 place' found =>
    split
    case h_1 missing =>
      simp only [found, Except.ok.injEq, reduceCtorEq, false_iff, not_and]
      rintro rfl
      simp [missing]
    case h_2 e' there =>
      simp only [found, Except.ok.injEq, Prod.mk.injEq]
      constructor
      · rintro ⟨rfl, rfl⟩
        exact ⟨rfl, there⟩
      · rintro ⟨rfl, same⟩
        exact ⟨rfl, Option.some.inj (there.symm.trans same)⟩

end Tree

/-! ## Making folders -/

open Deskwork.Files.Tree

variable {t t' : Tree} {p : Path}

/-- A question about a path is answered with yes when the path leads to an entry of the kind. -/
theorem ask_eq_true_iff {kind : Entry → Bool} :
    ask t p kind = .ok true
      ↔ p.hasNull = false ∧ ∃ a e, t.find p = .ok (a, e) ∧ kind e = true := by
  unfold ask
  cases p.hasNull with
  | true => simp
  | false =>
    simp only [Bool.false_eq_true, if_false, true_and]
    split
    case h_1 place e found => simp [found]
    all_goals simp_all

/-- A folder stands at a path when the path leads to one. -/
theorem isFolder_eq_true_iff :
    isFolder t p = .ok true ↔ p.hasNull = false ∧ ∃ d, t.find p = .ok (d, .folder) := by
  rw [isFolder, ask_eq_true_iff]
  refine and_congr_right fun _ => exists_congr fun d => ?_
  constructor
  · rintro ⟨e, found, folder⟩
    cases e with
    | file bytes => cases folder
    | folder => exact found
  · intro found
    exact ⟨.folder, found, rfl⟩

/-- A file stands at a path when the path leads to one. -/
theorem isFile_eq_true_iff :
    isFile t p = .ok true ↔ p.hasNull = false ∧ ∃ a bytes, t.find p = .ok (a, .file bytes) := by
  rw [isFile, ask_eq_true_iff]
  refine and_congr_right fun _ => exists_congr fun a => ?_
  constructor
  · rintro ⟨e, found, file⟩
    cases e with
    | file bytes => exact ⟨bytes, found⟩
    | folder => cases file
  · rintro ⟨bytes, found⟩
    exact ⟨.file bytes, found, rfl⟩

/-- A tree after a folder was made: it is sound, the other folders are kept, and the folder is found. -/
structure Made (t : Tree) (p : Path) (t' : Tree) : Prop where
  /-- The tree is sound. -/
  sound : t'.Sound
  /-- The other folders are kept. -/
  keeps : t.Keeps t'
  /-- The folder is found. -/
  found : ∃ d, t'.find p = .ok (d, .folder)

/-- A system call that succeeds was about a path without null characters. -/
theorem onPath_eq_ok_iff {α : Type} {r : Except Refusal α} {a : α} :
    onPath p r = .ok a ↔ p.hasNull = false ∧ r = .ok a := by
  unfold onPath
  cases p.hasNull with
  | true => simp
  | false => simp [mapError_eq_ok_iff]

/-- A new folder is found. -/
theorem made_of_makeFolder (sound : t.Sound) (h : makeFolder t p = .ok t') : Made t p t' := by
  obtain ⟨-, h⟩ := onPath_eq_ok_iff.mp h
  cases located : t.locate p with
  | error why => simp [located, bind, Except.bind] at h
  | ok place =>
    simp only [located, bind, Except.bind] at h
    split at h
    · cases h
    case h_2 free =>
      cases h
      have noFolder : t.entry? place ≠ some .folder := by simp [free]
      have above : t.entry? place.dropLast = some .folder :=
        sound.walk (sound.dropLast (sound.start p)) (locate_eq_ok_iff.mp located).2
      have keeps := keeps_put noFolder .folder
      refine ⟨sound.put noFolder above .folder, keeps, place, find_eq_ok_iff.mpr ⟨?_, ?_⟩⟩
      · exact keeps.locate located
      · exact entry?_put_self t (ne_root noFolder) .folder

/-- A fault that does not count leaves a folder that was there before. -/
theorem made_of_unlessFolder (sound : t.Sound) {f : Fault} (h : unlessFolder t p f = .ok ()) :
    Made t p t := by
  unfold unlessFolder at h
  split at h
  · split at h
    case h_1 there => exact ⟨sound, ⟨rfl, fun _ => id⟩, (isFolder_eq_true_iff.mp there).2⟩
    · cases h
    · cases h
  · cases h

/-- A folder that may have been there is found. -/
theorem made_of_makeLastFolder (sound : t.Sound) (h : makeLastFolder t p = (.ok (), t')) :
    Made t p t' := by
  unfold makeLastFolder at h
  split at h
  case h_1 made =>
    cases h
    exact made_of_makeFolder sound made
  case h_2 f _ =>
    split at h
    · cases h
    · obtain ⟨there, rfl⟩ := Prod.mk.inj h
      exact made_of_unlessFolder sound there

/-- A folder is found after it and those above it were made. -/
theorem made_of_makeFolders (sound : t.Sound) {above : Nat}
    (h : makeFolders t p above = (.ok (), t')) : Made t p t' := by
  induction above generalizing t p t' with
  | zero => exact made_of_makeLastFolder sound h
  | succ above ih =>
    rw [makeFolders] at h
    split at h
    case h_1 made =>
      cases h
      exact made_of_makeFolder sound made
    case h_2 =>
      split at h
      · split at h
        case h_1 t₁ upper =>
          have first := ih sound upper
          have last := made_of_makeLastFolder first.sound h
          exact ⟨last.sound, first.keeps.trans last.keeps, last.found⟩
        · cases h
      · obtain ⟨there, rfl⟩ := Prod.mk.inj h
        exact made_of_unlessFolder sound there

/-- A folder is found after it was made with all that was missing above it. -/
theorem made_of_ensureFolder (sound : t.Sound) (h : ensureFolder t p = (.ok (), t')) :
    Made t p t' :=
  made_of_makeFolders sound h

end Deskwork.Files
