/-
# Folders on the Way

A path without double dots names the places that it leads through, one below the other. Making the missing
folders above it makes folders at these places only (`entry?_ensureFolder`), and so it does not change
whether the path itself leads to a folder (`isFolder_of_ensureFolder_iff`). With double dots this fails: a
path may lead through a missing folder to one that exists.
-/
import Deskwork.Proofs.Files.Copying

namespace Deskwork.Files

open Deskwork.Text Deskwork.Files.Tree

variable {t t' : Tree} {p : Path} {b here place q : Place} {ps : List String} {e : Entry}

/-! ## Ways without double dots -/

/-- A way without double dots leads to the place that it names. -/
theorem walk_eq_append (proper : ".." ∉ ps) (h : t.walk here ps = .ok place) : place = here ++ ps := by
  have cancelled := Path.cancelDots_append proper here.reverse []
  rw [List.append_nil] at cancelled
  rw [walk_eq_cancelDots h, cancelled, Path.cancelDots, List.reverse_append, List.reverse_reverse,
    List.reverse_reverse]

/-- A path without double dots leads to the place that it names. -/
theorem locate_eq_append (proper : ".." ∉ p.parts) (h : t.locate p = .ok b) : b = t.start p ++ p.parts :=
  walk_eq_append proper (locate_eq_ok_iff.mp h).2

/-- What stands at the end of a way can be reached when all names are short enough, which they are when
there is such a way in another tree. -/
theorem walk_of_entry (sound : t.Sound) (proper : ".." ∉ ps) (there : t.entry? (here ++ ps) = some e)
    (elsewhere : t'.walk here ps = .ok place) : t.walk here ps = .ok place := by
  induction ps generalizing here with
  | nil => exact elsewhere
  | cons part ps ih =>
    rw [List.mem_cons, not_or] at proper
    have folder := sound.folder_above there (List.cons_ne_nil part ps)
    rw [walk] at elsewhere ⊢
    rw [folder]
    split at elsewhere
    · cases elsewhere
    · cases elsewhere
    · rw [if_neg (Ne.symm proper.1)] at elsewhere ⊢
      split at elsewhere
      · cases elsewhere
      case isFalse short =>
        rw [if_neg short]
        exact ih proper.2 (by rwa [List.append_assoc, List.singleton_append]) elsewhere

/-- What stands where a path leads in another tree is found. -/
theorem find_of_entry (sound : t.Sound) (proper : ".." ∉ p.parts) (home : t'.home = t.home)
    (located : t'.locate p = .ok b) (there : t.entry? b = some e) : t.find p = .ok (b, e) := by
  have names := locate_eq_append proper located
  obtain ⟨short, way⟩ := locate_eq_ok_iff.mp located
  rw [start_congr home] at names way
  rw [names] at there
  refine find_eq_ok_iff.mpr ⟨locate_eq_ok_iff.mpr ⟨short, ?_⟩, names ▸ there⟩
  exact walk_of_entry sound proper there way

/-! ## Making folders -/

/-- Nothing changes beside the place where a folder is made. -/
theorem entry?_makeFolder (proper : ".." ∉ p.parts) (made : makeFolder t p = .ok t')
    (other : q ≠ t.start p ++ p.parts) : t'.entry? q = t.entry? q := by
  obtain ⟨-, made⟩ := onPath_eq_ok_iff.mp made
  obtain ⟨place, located, made⟩ := bind_eq_ok_iff.mp made
  split at made
  · cases made
  · cases made
    rw [locate_eq_append proper located]
    exact entry?_put_of_ne t other .folder

theorem entry?_makeLastFolder (proper : ".." ∉ p.parts) (other : q ≠ t.start p ++ p.parts) :
    Tree.entry? (makeLastFolder t p).2 q = t.entry? q := by
  unfold makeLastFolder
  split
  case h_1 made => exact entry?_makeFolder proper made other
  case h_2 => rfl

theorem entry?_makeFolders (proper : ".." ∉ p.parts) (off : ¬ q <+: t.start p ++ p.parts) (above : Nat) :
    Tree.entry? (makeFolders t p above).2 q = t.entry? q := by
  have other {w : Place} (beside : ¬ q <+: w) : q ≠ w := by
    rintro rfl
    exact beside List.prefix_rfl
  induction above generalizing p with
  | zero => exact entry?_makeLastFolder proper (other off)
  | succ above ih =>
    have higher : p.parent.parts <+: p.parts := List.dropLast_prefix p.parts
    have upper : Tree.entry? (makeFolders t p.parent above).2 q = t.entry? q :=
      ih (fun dots => proper (higher.subset dots))
        fun on => off (on.trans ((List.prefix_append_right_inj _).mpr higher))
    have home := (grown_of_makeFolders t p.parent above).home
    rw [makeFolders]
    split
    case h_1 made => exact entry?_makeFolder proper made (other off)
    case h_2 =>
      split
      · split
        case h_1 t₁ made =>
          rw [made] at upper home
          rw [← upper]
          refine entry?_makeLastFolder proper ?_
          rw [start_congr (t := t) home]
          exact other off
        case h_2 made =>
          rw [made] at upper
          exact upper
      · rfl

/-- Making a folder, with all that is missing above it, changes nothing beside the way to it. -/
theorem entry?_ensureFolder {r : Except Fault Unit} (proper : ".." ∉ p.parts)
    (made : ensureFolder t p = (r, t')) (off : ¬ q <+: t.start p ++ p.parts) :
    t'.entry? q = t.entry? q := by
  have same := entry?_makeFolders proper off p.parts.length
  unfold ensureFolder at made
  rwa [made] at same

/-- Making the folders above a path does not change whether the path leads to a folder. -/
theorem isFolder_of_ensureFolder_iff {r : Except Fault Unit} (sound : t.Sound) (proper : ".." ∉ p.parts)
    (named : p.name ≠ "") (made : ensureFolder t p.parent = (r, t')) :
    isFolder t' p = .ok true ↔ isFolder t p = .ok true := by
  have grown := grown_of_ensureFolder made
  rw [isFolder_eq_true_iff, isFolder_eq_true_iff]
  refine and_congr_right fun _ => exists_congr fun d => ?_
  constructor
  · intro found
    obtain ⟨located, folder⟩ := find_eq_ok_iff.mp found
    have names := locate_eq_append proper located
    have off : ¬ d <+: t.start p.parent ++ p.parent.parts := by
      intro on
      have begins : t.start p.parent = t.start p := rfl
      rw [names, start_congr grown.home, begins, Path.parts_eq named, ← List.append_assoc] at on
      have longer := on.length_le
      rw [List.length_append, List.length_singleton] at longer
      exact Nat.not_succ_le_self _ longer
    have properAbove : ".." ∉ p.parent.parts := fun dots => proper ((List.dropLast_prefix _).subset dots)
    rw [entry?_ensureFolder properAbove made off] at folder
    exact find_of_entry sound proper grown.home located folder
  · intro found
    obtain ⟨located, folder⟩ := find_eq_ok_iff.mp found
    exact find_eq_ok_iff.mpr ⟨grown.keeps.locate located, grown.stays folder⟩

end Deskwork.Files
