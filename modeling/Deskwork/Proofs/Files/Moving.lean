/-
# Moving a File

A path with a name leads into a folder, and there it leads to a file, to a folder or to a free place
(`takes_of_file`, `Takes`). A file that is moved stands at its new place afterwards, no longer at its
old one, and everything else stands where it stood (`Moved`). The main statement,
`replace_of_takes`, says that nothing can go wrong when the new place is free or holds a file. Making
folders adds folders at free places and does nothing else, also when it fails (`grown_of_ensureFolder`).
-/
import Deskwork.Proofs.Files.Walking

namespace Deskwork.Files

open Deskwork.Text Deskwork.Files.Tree

/-! ## Names of paths -/

namespace Path

@[simp]
theorem parent_child (p : Path) (name : String) : (p.child name).parent = p := by
  simp [child, parent]

@[simp]
theorem name_child (p : Path) (name : String) : (p.child name).name = name := by
  simp [child, Path.name]

@[simp]
theorem parent_rename (p : Path) (name : String) : (p.rename name).parent = p.parent :=
  p.parent.parent_child name

@[simp]
theorem name_rename (p : Path) (name : String) : (p.rename name).name = name :=
  p.parent.name_child name

/-- A path with a name is made of its parent and the name. -/
theorem parts_eq {p : Path} (named : p.name ≠ "") : p.parts = p.parent.parts ++ [p.name] := by
  unfold name at named ⊢
  cases last : p.parts.getLast? with
  | none => simp [last] at named
  | some s =>
    obtain ⟨front, whole⟩ := List.getLast?_eq_some_iff.mp last
    simp [whole, parent]

/-- A path ends in a double dot when that is its name. -/
theorem endsInDots_eq {p : Path} (named : p.name ≠ "") : endsInDots p = decide (p.name = "..") := by
  rw [endsInDots, parts_eq named]
  simp [Bool.beq_eq_decide_eq]

/-- The parts of a path that a text writes are not empty. -/
theorem ne_empty_of_mem_parts {s part : String} (mem : part ∈ (ofString s).parts) : part ≠ "" := by
  obtain ⟨piece, kept, rfl⟩ := List.mem_map.mp mem
  have isPart := (List.mem_filter.mp kept).2
  intro empty
  have nothing : piece = [] := String.ofList_injective empty
  rw [nothing] at isPart
  cases isPart

/-- A path that a text writes has a name, unless it has no parts. -/
theorem name_ofString_ne_empty {s : String} (some : (ofString s).parts ≠ []) :
    (ofString s).name ≠ "" := by
  have last : (ofString s).name = (ofString s).parts.getLast some := by
    rw [name, List.getLast?_eq_getLast_of_ne_nil some, Option.getD_some]
  rw [last]
  exact ne_empty_of_mem_parts (List.getLast_mem some)

end Path

/-! ## Folders above a place -/

namespace Tree

variable {t t' : Tree}

/-- Above everything there are folders. -/
theorem Sound.folder_above (sound : t.Sound) {a : Place} {rest : List String} {e : Entry}
    (there : t.entry? (a ++ rest) = some e) (below : rest ≠ []) : t.entry? a = some .folder := by
  induction rest using List.reverseRecOn generalizing e with
  | nil => exact absurd rfl below
  | append_singleton rest name ih =>
    have folder := sound.dropLast there
    rw [← List.append_assoc, List.dropLast_concat] at folder
    by_cases top : rest = []
    · rw [top, List.append_nil] at folder
      exact folder
    · exact ih folder top

/-- A folder and a file stand at different places. -/
theorem ne_of_folder_of_file {a d : Place} {bytes : Bytes} (folder : t.entry? d = some .folder)
    (file : t.entry? a = some (.file bytes)) : d ≠ a := by
  rintro rfl
  rw [file] at folder
  cases folder

/-- The way to the last part of a path leads into a folder. -/
structure Above (t : Tree) (p : Path) (d : Place) : Prop where
  /-- The other parts lead there. -/
  way : t.walk (t.start p) p.parent.parts = .ok d
  /-- A folder stands there. -/
  folder : t.entry? d = some .folder

variable {p : Path} {d : Place}

/-- A folder that is found above a path is such a folder. -/
theorem above_of_find (found : t.find p.parent = .ok (d, .folder)) : t.Above p d := by
  obtain ⟨located, there⟩ := find_eq_ok_iff.mp found
  exact ⟨(locate_eq_ok_iff.mp located).2, there⟩

/-- The way stays when folders are kept. -/
theorem Above.keeps (above : t.Above p d) (keeps : t.Keeps t') : t'.Above p d where
  way := by
    rw [start_congr keeps.home]
    exact keeps.walk above.way
  folder := keeps.folder d above.folder

/-- Another name in the same folder has the same way. -/
theorem Above.rename (above : t.Above p d) (name : String) : t.Above (p.rename name) d where
  way := by
    rw [Path.parent_rename]
    exact above.way
  folder := above.folder

end Tree

variable {t t' : Tree} {p q : Path} {a b d : Place} {bytes : Bytes}

/-- Where a named path leads, and when it is too long, given the folder above it. -/
theorem locate_named (named : p.name ≠ "") (noDots : p.name ≠ "..") (above : t.Above p d) :
    t.locate p
      = if pathLimit < p.toString.utf8ByteSize ∨ nameLimit < p.name.utf8ByteSize then
          .error .longName
        else .ok (d ++ [p.name]) := by
  have last : t.walk (t.start p) p.parts
      = if nameLimit < p.name.utf8ByteSize then .error .longName else .ok (d ++ [p.name]) := by
    rw [Path.parts_eq named, walk_append, above.way]
    simp only [bind, Except.bind, walk, above.folder, if_neg noDots]
  by_cases long : pathLimit < p.toString.utf8ByteSize
  · rw [locate, if_pos long, if_pos (.inl long)]
  · have begins : (if p.slashes = 0 then t.home else []) = t.start p := rfl
    rw [locate, if_neg long, begins, last]
    simp only [long, false_or]

/-! ## Places for files -/

/-- A path at which there is known to be no folder is not too long, and leads to no folder. -/
theorem not_folder_of_isFolder (noNull : p.hasNull = false) (h : isFolder t p = .ok false) :
    t.locate p ≠ .error .longName ∧ ∀ place, t.locate p = .ok place → t.entry? place ≠ some .folder := by
  simp only [isFolder, ask, noNull, Bool.false_eq_true, if_false] at h
  constructor
  · intro long
    simp [Tree.find, long] at h
  · intro place located folder
    simp [Tree.find, located, folder, Entry.isFile] at h

/-- A path with a name, below a folder, can take a file. -/
structure Takes (t : Tree) (p : Path) (d : Place) : Prop where
  /-- The path leads into the folder. -/
  located : t.locate p = .ok (d ++ [p.name])
  /-- No folder stands there. -/
  free : t.entry? (d ++ [p.name]) ≠ some .folder

/-- A path can take a file when there is known to be no folder. -/
theorem takes_of_isFolder (noNull : p.hasNull = false) (named : p.name ≠ "") (noDots : p.name ≠ "..")
    (above : t.Above p d) (h : isFolder t p = .ok false) : Takes t p d := by
  obtain ⟨fits, free⟩ := not_folder_of_isFolder noNull h
  have located := locate_named named noDots above
  split at located
  · exact absurd located fits
  · exact ⟨located, free _ located⟩

/-- There is known to be no folder at a path that can take a file. -/
theorem Takes.isFolder (takes : Takes t p d) : isFolder t p = .ok false := by
  unfold Files.isFolder ask
  cases p.hasNull with
  | true => rfl
  | false =>
    simp only [Bool.false_eq_true, if_false, Tree.find, takes.located]
    cases there : t.entry? (d ++ [p.name]) with
    | none => rfl
    | some e =>
      cases e with
      | file bytes => rfl
      | folder => exact absurd there takes.free

/-- A path that can take a file can do so when the folders are kept and no folder is new there. -/
theorem Takes.keeps (takes : Takes t p d) (keeps : t.Keeps t')
    (free : t'.entry? (d ++ [p.name]) ≠ some .folder) : Takes t' p d :=
  ⟨keeps.locate takes.located, free⟩

/-- A file is written where a path can take one. -/
theorem Takes.writeBytes (noNull : p.hasNull = false) (takes : Takes t p d) (bytes : Bytes) :
    writeBytes t p bytes = .ok (t.put (d ++ [p.name]) (.file bytes)) := by
  refine onPath_eq_ok_iff.mpr ⟨noNull, ?_⟩
  rw [takes.located]
  simp only [bind, Except.bind]
  split
  · exact absurd ‹_› takes.free
  · rfl

/-- A file was written at the place to which the path leads, where no folder stood. -/
theorem place_of_writeBytes (h : Files.writeBytes t p bytes = .ok t') :
    p.hasNull = false ∧ ∃ b, t.locate p = .ok b ∧ t.entry? b ≠ some .folder
      ∧ t' = t.put b (.file bytes) := by
  obtain ⟨noNull, h⟩ := onPath_eq_ok_iff.mp h
  obtain ⟨b, located, h⟩ := bind_eq_ok_iff.mp h
  split at h
  · cases h
  case h_2 free =>
    cases h
    exact ⟨noNull, b, located, fun folder => free folder, rfl⟩

/-- What is read is the contents of a file. -/
theorem readBytes_eq_ok_iff :
    readBytes t p = .ok bytes ↔ p.hasNull = false ∧ ∃ a, t.find p = .ok (a, .file bytes) := by
  unfold readBytes
  rw [onPath_eq_ok_iff, bind_eq_ok_iff]
  apply and_congr_right
  intro _
  constructor
  · rintro ⟨⟨a, e⟩, found, h⟩
    cases e with
    | folder => cases h
    | file bytes' =>
      cases h
      exact ⟨a, found⟩
  · rintro ⟨a, found⟩
    exact ⟨_, found, rfl⟩

/-- A path with a name that leads to a file ends in a proper name and can take a file. -/
theorem takes_of_file (sound : t.Sound) (named : p.name ≠ "")
    (found : t.find p = .ok (a, .file bytes)) :
    p.name ≠ ".." ∧ ∃ d, t.Above p d ∧ Takes t p d ∧ a = d ++ [p.name] := by
  obtain ⟨located, file⟩ := find_eq_ok_iff.mp found
  have whole := (locate_eq_ok_iff.mp located).2
  rw [Path.parts_eq named] at whole
  obtain ⟨d, way, folder, place⟩ := walk_snoc whole
  have noDots : p.name ≠ ".." := by
    intro dots
    rw [place, if_pos dots, sound.dropLast folder] at file
    cases file
  rw [if_neg noDots] at place
  subst place
  have free : t.entry? (d ++ [p.name]) ≠ some .folder := by
    rw [file]
    rintro ⟨⟩
  exact ⟨noDots, d, ⟨way, folder⟩, ⟨located, free⟩, rfl⟩

/-- A path that a text writes has a name when it leads to a file. -/
theorem name_ne_empty_of_file (sound : t.Sound) {path : String}
    (found : t.find (Path.ofString path) = .ok (a, .file bytes)) : (Path.ofString path).name ≠ "" := by
  apply Path.name_ofString_ne_empty
  intro none
  obtain ⟨located, file⟩ := find_eq_ok_iff.mp found
  have here := (locate_eq_ok_iff.mp located).2
  rw [none] at here
  cases here
  rw [sound.start] at file
  cases file

/-! ## A file at another place -/

/-- A file was moved from one place to another: it stands there, no longer at its old place, and
everything else stands where it stood. -/
structure Moved (t t' : Tree) (a b : Place) (bytes : Bytes) : Prop where
  /-- The file stands at its new place. -/
  there : t'.entry? b = some (.file bytes)
  /-- It has left the old one. -/
  gone : a ≠ b → t'.entry? a = none
  /-- All else is as it was. -/
  others : ∀ q, q ≠ a → q ≠ b → t'.entry? q = t.entry? q
  /-- The working folder is the same. -/
  home : t'.home = t.home

/-- Moving a file keeps all folders. -/
theorem Moved.keeps (moved : Moved t t' a b bytes) (file : t.entry? a = some (.file bytes))
    (free : t.entry? b ≠ some .folder) : t.Keeps t' where
  home := moved.home
  folder := by
    intro d folder
    have old := ne_of_folder_of_file folder file
    have new : d ≠ b := by
      rintro rfl
      exact free folder
    rw [moved.others d old new, folder]

/-- Nothing else is lost when the entry at a place is. -/
theorem entry?_erase_of_ne (t : Tree) {b q : Place} (h : q ≠ b) :
    Tree.entry? (t.erase b) q = t.entry? q := by
  by_cases root : q = []
  · rw [root]
    rfl
  · rw [entry?_of_ne _ root, entry?_of_ne _ root]
    exact Table.get?_filter_of_ne _ h

/-- The entry at a place is lost when it is taken away. -/
theorem entry?_erase_self (t : Tree) {b : Place} (h : b ≠ []) : Tree.entry? (t.erase b) b = none := by
  rw [entry?_of_ne _ h]
  exact Table.get?_filter_self _ _

/-- A file that is relocated is moved, from a tree whose entries are those of a sound tree without the
entry that stood at the new place. -/
theorem moved_relocate {u : Tree} (sound : t.Sound) (file : t.entry? a = some (.file bytes))
    (free : t.entry? b ≠ some .folder) (differ : a ≠ b) (home : u.home = t.home)
    (mem : ∀ e ∈ u.entries, e ∈ t.entries) (cleared : u.entry? b = none)
    (others : ∀ q, q ≠ b → u.entry? q = t.entry? q) : Moved t (u.relocate a b) a b bytes := by
  have renamed : (u.relocate a b).entries = Table.rename u.entries a b := by
    refine List.map_congr_left fun e he => ?_
    by_cases below : a.isPrefixOf e.1 = true
    · obtain same : e.1 = a := sound.eq_of_below_file file (mem e he) below
      rw [if_pos below, if_pos same, same, List.drop_length, List.append_nil]
    · have other : e.1 ≠ a := by
        rintro rfl
        exact below (List.isPrefixOf_iff_prefix.mpr (List.prefix_refl _))
      rw [if_neg below, if_neg other]
  have root : b ≠ [] := ne_root free
  have start : a ≠ [] := ne_root (t := t) (by simp [file])
  refine ⟨?_, ?_, ?_, home⟩
  · rw [entry?_of_ne _ root, renamed, Table.get?_rename_self (u.entry?_of_ne root ▸ cleared),
      ← u.entry?_of_ne start, others a differ, file]
  · intro _
    rw [entry?_of_ne _ start, renamed]
    exact Table.get?_rename_old differ
  · intro q old new
    by_cases top : q = []
    · rw [top]
      rfl
    · rw [entry?_of_ne _ top, renamed, Table.get?_rename_of_ne old new, ← u.entry?_of_ne top,
        others q new]

/-- A path below a folder may be asked for. -/
theorem checkAbove_of_takes (above : t.Above p d) (takes : Takes t p d) :
    t.checkAbove p = .ok () := by
  have way : t.walk (if p.slashes = 0 then t.home else []) p.parts.dropLast = .ok d := above.way
  have fits := (locate_eq_ok_iff.mp takes.located).1
  simp only [checkAbove, if_neg (Nat.not_lt_of_le fits), way, above.folder]

/-- A path with a proper name is no end of a way. -/
theorem unnamed_eq_false (named : p.name ≠ "") (noDots : p.name ≠ "..") :
    replace.unnamed p = false := by
  rw [replace.unnamed, Path.endsInDots_eq named, Path.parts_eq named]
  simp [noDots]

/-- A file stands above nothing, and nothing stands above a place that is free or holds a file. -/
theorem not_isBelow (sound : t.Sound) (file : t.entry? a = some (.file bytes))
    (folder : t.entry? d = some .folder) {name : String}
    (free : t.entry? (d ++ [name]) ≠ some .folder) :
    Tree.isBelow a (d ++ [name]) = false ∧ Tree.isBelow (d ++ [name]) a = false := by
  constructor
  · by_contra below
    simp only [isBelow, Bool.not_eq_false, Bool.and_eq_true, decide_eq_true_eq,
      List.isPrefixOf_iff_prefix] at below
    obtain ⟨⟨rest, whole⟩, longer⟩ := below
    rcases List.eq_nil_or_concat rest with rfl | ⟨rest, last, rfl⟩
    · rw [← whole, List.append_nil] at longer
      exact absurd longer (Nat.lt_irrefl _)
    · have front : a ++ rest = d := by
        rw [List.concat_eq_append, ← List.append_assoc] at whole
        exact (List.append_inj' whole rfl).1
      obtain rfl := sound.below_file file rest (front ▸ folder)
      rw [List.append_nil] at front
      rw [front, folder] at file
      cases file
  · by_contra below
    simp only [isBelow, Bool.not_eq_false, Bool.and_eq_true, decide_eq_true_eq,
      List.isPrefixOf_iff_prefix] at below
    obtain ⟨⟨rest, whole⟩, longer⟩ := below
    have more : rest ≠ [] := by
      rintro rfl
      rw [← whole, List.append_nil] at longer
      exact absurd longer (Nat.lt_irrefl _)
    exact free (sound.folder_above (whole ▸ file) more)

/-- A file takes the place of another one, or a free place. -/
theorem replace_of_takes (sound : t.Sound) (noNull : p.hasNull = false ∧ q.hasNull = false)
    (named : p.name ≠ "" ∧ q.name ≠ "") (noDots : q.name ≠ "..")
    (found : t.find p = .ok (a, .file bytes)) (above : t.Above q d) (target : Takes t q d) :
    ∃ t', replace t p q = .ok t' ∧ Moved t t' a (d ++ [q.name]) bytes := by
  obtain ⟨noDotsSource, c, aboveSource, source, -⟩ := takes_of_file sound named.1 found
  have file := (find_eq_ok_iff.mp found).2
  obtain ⟨notAbove, notBelow⟩ := not_isBelow sound file above.folder target.free
  unfold replace
  simp only [noNull, Bool.or_self, Bool.false_eq_true, if_false,
    checkAbove_of_takes aboveSource source, checkAbove_of_takes above target,
    unnamed_eq_false named.1 noDotsSource, unnamed_eq_false named.2 noDots, found, target.located,
    bind, Except.bind, notAbove, notBelow]
  by_cases same : a = d ++ [q.name]
  · rw [if_pos same]
    exact ⟨t, rfl, same ▸ file, fun differ => absurd same differ, fun _ _ _ => rfl, rfl⟩
  · rw [if_neg same]
    cases there : t.entry? (d ++ [q.name]) with
    | none =>
      exact ⟨_, rfl, moved_relocate sound file target.free same rfl (fun _ => id) there
        fun _ _ => rfl⟩
    | some e =>
      cases e with
      | folder => exact absurd there target.free
      | file old =>
        exact ⟨_, rfl, moved_relocate sound file target.free same rfl
          (fun _ mem => (List.mem_filter.mp mem).1)
          (entry?_erase_self t (snoc_ne_root d q.name)) fun _ => entry?_erase_of_ne t⟩

/-- A file took the place of another one where the path can take one. -/
theorem takes_of_replace (named : q.name ≠ "") (above : t.Above q d)
    (source : t.find p = .ok (a, .file bytes)) (apart : a ≠ d ++ [q.name]) (h : replace t p q = .ok t') :
    q.hasNull = false ∧ q.name ≠ ".." ∧ Takes t q d := by
  unfold replace at h
  split at h
  · cases h
  case isFalse noNull =>
    rw [mapError_eq_ok_iff] at h
    obtain ⟨_, _, h⟩ := bind_eq_ok_iff.mp h
    obtain ⟨_, _, h⟩ := bind_eq_ok_iff.mp h
    split at h
    · cases h
    case isFalse noEnds =>
      obtain ⟨⟨a', e⟩, found, h⟩ := bind_eq_ok_iff.mp h
      obtain ⟨b, located, h⟩ := bind_eq_ok_iff.mp h
      obtain ⟨rfl, rfl⟩ : a = a' ∧ Entry.file bytes = e := by
        simpa [source] using found
      have noDots : q.name ≠ ".." := by
        simp only [Bool.or_eq_true, not_or, Bool.not_eq_true] at noEnds
        simpa [replace.unnamed, Path.parts_eq named, Path.endsInDots_eq named] using noEnds.2
      have leads := locate_named named noDots above
      split at leads
      · rw [leads] at located
        cases located
      · obtain rfl : d ++ [q.name] = b := by simpa [leads] using located
        simp only [Bool.or_eq_true, not_or, Bool.not_eq_true] at noNull
        refine ⟨noNull.2, noDots, leads, fun folder => ?_⟩
        simp only [if_neg apart, folder] at h
        split at h
        · cases h
        · split at h <;> cases h

/-- A replacement of a path that may be asked for goes through or is refused. -/
theorem refused_of_replace {f : Fault} (noNull : p.hasNull = false ∧ q.hasNull = false)
    (h : replace t p q = .error f) : ∃ why source target, f = .refused why source target := by
  simp only [replace, noNull, Bool.or_self, Bool.false_eq_true, if_false] at h
  rw [mapError_eq_error_iff] at h
  obtain ⟨why, -, rfl⟩ := h
  exact ⟨why, _, _, rfl⟩

/-! ## Making folders -/

namespace Tree

/-- A tree has grown: folders were added at free places, and all else is as it was. -/
structure Grown (t t' : Tree) : Prop where
  /-- The working folder is the same. -/
  home : t'.home = t.home
  /-- What stands at a place stood there before, or it is a folder at a free place. -/
  entry : ∀ q, t'.entry? q = t.entry? q ∨ t.entry? q = none ∧ t'.entry? q = some .folder

variable {t'' : Tree}

theorem Grown.refl (t : Tree) : t.Grown t := ⟨rfl, fun _ => .inl rfl⟩

theorem Grown.trans (h : t.Grown t') (h' : t'.Grown t'') : t.Grown t'' where
  home := h'.home.trans h.home
  entry := by
    intro q
    rcases h'.entry q with same | ⟨free, new⟩
    · rcases h.entry q with same' | ⟨free, new⟩
      · exact .inl (same.trans same')
      · exact .inr ⟨free, same.trans new⟩
    · rcases h.entry q with same' | ⟨-, new'⟩
      · exact .inr ⟨same'.symm.trans free, new⟩
      · rw [free] at new'
        cases new'

/-- What stands somewhere stays. -/
theorem Grown.stays (grown : t.Grown t') {q : Place} {e : Entry} (there : t.entry? q = some e) :
    t'.entry? q = some e := by
  rcases grown.entry q with same | ⟨free, -⟩
  · rw [same, there]
  · rw [there] at free
    cases free

/-- A file that stands somewhere stood there before. -/
theorem Grown.was (grown : t.Grown t') {q : Place} (there : t'.entry? q = some (.file bytes)) :
    t.entry? q = some (.file bytes) := by
  rcases grown.entry q with same | ⟨-, new⟩
  · rw [← same, there]
  · rw [there] at new
    cases new

/-- A tree that has grown keeps its folders. -/
theorem Grown.keeps (grown : t.Grown t') : t.Keeps t' :=
  ⟨grown.home, fun _ folder => grown.stays folder⟩

end Tree

/-- A new folder stands at a place that was free. -/
theorem grown_of_makeFolder (h : makeFolder t p = .ok t') : t.Grown t' := by
  obtain ⟨-, h⟩ := onPath_eq_ok_iff.mp h
  obtain ⟨place, -, h⟩ := bind_eq_ok_iff.mp h
  split at h
  · cases h
  case h_2 free =>
    cases h
    refine ⟨rfl, fun q => ?_⟩
    by_cases here : q = place
    · subst here
      have noFolder : t.entry? q ≠ some .folder := by simp [free]
      exact .inr ⟨free, entry?_put_self t (ne_root noFolder) .folder⟩
    · exact .inl (entry?_put_of_ne t here .folder)

theorem grown_of_makeLastFolder (t : Tree) (p : Path) : t.Grown (makeLastFolder t p).2 := by
  unfold makeLastFolder
  split
  case h_1 made => exact grown_of_makeFolder made
  case h_2 => exact .refl t

theorem grown_of_makeFolders (t : Tree) (p : Path) (above : Nat) :
    t.Grown (makeFolders t p above).2 := by
  induction above generalizing t p with
  | zero => exact grown_of_makeLastFolder t p
  | succ above ih =>
    have upper := ih t p.parent
    rw [makeFolders]
    split
    case h_1 made => exact grown_of_makeFolder made
    case h_2 =>
      split
      · split
        case h_1 made =>
          rw [made] at upper
          exact upper.trans (grown_of_makeLastFolder _ p)
        case h_2 made =>
          rw [made] at upper
          exact upper
      · exact .refl t

/-- Making a folder, with all that is missing above it, adds folders at free places and does nothing
else, also when it fails. -/
theorem grown_of_ensureFolder {r : Except Fault Unit} (made : ensureFolder t p = (r, t')) :
    t.Grown t' := by
  have grown := grown_of_makeFolders t p p.parts.length
  unfold ensureFolder at made
  rw [made] at grown
  exact grown

end Deskwork.Files
