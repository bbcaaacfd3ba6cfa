/-
# Where Transferred Files Arrive

A step that copies or moves a file and succeeds has taken it to one place and has touched no other file
(`Arrived`). Which place this is gets decided twice: by the step, which looks whether there is a folder at
the destination, and by the operation that copies or moves, after the missing folders were made. For paths
without double dots the folders that are made change nothing about it, so that both decisions agree unless
a copy may replace what stands at its destination and a folder stands there: the copy goes into this folder
(`arrives_iff`).
-/
import Deskwork.Proofs.Files.Making
import Deskwork.Proofs.Session.Transfers

namespace Deskwork

open Deskwork.Files Deskwork.Files.Tree Deskwork.Text

/-- A file was copied or moved from one path to another one: it stands there with its contents, and no
other file was changed or added; a copy leaves the file where it was, and a move takes it away. -/
structure Arrived (v : TransferVerb) (t t' : Tree) (src dst : Path) (a b : Place) (bytes : Bytes) :
    Prop where
  /-- The file stood at the first path. -/
  source : t.find src = .ok (a, .file bytes)
  /-- It stands at the other one. -/
  there : t'.find dst = .ok (b, .file bytes)
  /-- A copy leaves the file where it was. -/
  stays : v = .copy → t'.find src = .ok (a, .file bytes)
  /-- A move takes it away. -/
  gone : v = .move → t'.entry? a = none
  /-- All other files are as they were. -/
  others : ∀ q, q ≠ b → (v = .move → q ≠ a) → t'.fileAt? q = t.fileAt? q

/-- A file was copied or moved from one path to another one. -/
def Arrives (v : TransferVerb) (t t' : Tree) (src dst : Path) : Prop :=
  ∃ a b bytes, Arrived v t t' src dst a b bytes

variable {t t₁ t' : Tree} {v : TransferVerb} {src dst : Path} {a b : Place} {bytes : Bytes}

/-- New folders are no files. -/
theorem fileAt?_of_grown (grown : t.Grown t') (q : Place) : t'.fileAt? q = t.fileAt? q := by
  unfold Tree.fileAt?
  rcases grown.entry q with same | ⟨free, new⟩
  · rw [same]
  · rw [free, new]

/-- A file that lands after folders were made has arrived. -/
theorem arrived_of_landed (grown : t.Grown t₁) (source : t.find src = .ok (a, .file bytes))
    (located : t₁.locate dst = .ok b) (landed : Landed v t₁ t' a b bytes) :
    Arrived v t t' src dst a b bytes := by
  obtain ⟨leads, file⟩ := find_eq_ok_iff.mp source
  constructor
  · exact source
  · exact find_eq_ok_iff.mpr ⟨landed.keeps.locate located, landed.there⟩
  · rintro rfl
    refine find_eq_ok_iff.mpr ⟨(grown.keeps.trans landed.keeps).locate leads, ?_⟩
    rw [landed.others a landed.apart.symm (by rintro ⟨⟩), grown.stays file]
  · exact landed.gone
  · intro q new old
    rw [← fileAt?_of_grown grown q]
    unfold Tree.fileAt?
    rw [landed.others q new old]

/-- A question that may fail is answered with yes. -/
theorem toOption_getD_eq_true_iff {r : Except Files.Fault Bool} :
    r.toOption.getD false = true ↔ r = .ok true := by
  rcases r with _ | _ | _ <;> simp [Except.toOption]

namespace FileTransfer

variable {f : FileTransfer}

/-- The path to which a file goes has no double dots when the destination has none. -/
theorem dots_not_mem_target (proper : ".." ∉ (Path.ofString f.destination).parts)
    (named : f.sourcePath.name ≠ "..") : ".." ∉ (f.target t).parts := by
  unfold target
  split
  · simpa [Path.child] using ⟨proper, Ne.symm named⟩
  · exact proper

/-- The place where a file lands does not depend on the folders that are made on the way to it. -/
theorem landing_of_made (sound : t.Sound) (admitted : f.Admitted t)
    (proper : ".." ∉ (f.target t).parts) (named : f.sourcePath.name ≠ "")
    (made : ensureFolder t (f.target t).parent = (.ok (), t₁)) :
    landing v t₁ f.sourcePath (f.target t) = landing v t f.sourcePath (f.target t) := by
  cases v with
  | move => rfl
  | copy =>
    have same := isFolder_of_ensureFolder_iff sound proper (admitted.unopposed.named sound named) made
    simp only [landing, toOption_getD_eq_true_iff, same]

/-- In the course of a step that succeeds, the file lands after folders were made. -/
theorem Course.landed {r : Except Fault Bool} (course : f.Course v t r t') (success : r = .ok true)
    (sound : t.Sound) (home : ".." ∉ t.home) (proper : ".." ∉ (Path.ofString f.destination).parts) :
    ∃ a b bytes t₁, t.Grown t₁ ∧ t.find f.sourcePath = .ok (a, .file bytes)
      ∧ t₁.locate (landing v t f.sourcePath (f.target t)) = .ok b ∧ Landed v t₁ t' a b bytes := by
  cases course with
  | refused forbidden failed => exact absurd success failed
  | stuck made failed => exact absurd success failed
  | @transferred o t₁ _ admitted made outcome done =>
    obtain ⟨-, a, bytes, source⟩ := isFile_eq_true_iff.mp admitted.there
    have named := name_ne_empty_of_file sound source
    have noDots := (takes_of_file sound named source).1
    have lands := lands_of_made v sound home source admitted.unopposed made
    rw [outcome, done.mp success] at lands
    cases lands with
    | @landed b _ located landed =>
      rw [landing_of_made sound admitted (dots_not_mem_target proper noDots) named made] at located
      exact ⟨a, b, bytes, t₁, grown_of_ensureFolder made, source, located, landed⟩

/-- A step that copies or moves a file and succeeds takes it to its destination and changes no other file.
Only a copy that may replace what stands at its destination, and finds a folder there, goes into this
folder instead. -/
theorem arrives_iff (s : Session) (f : FileTransfer) (v : TransferVerb) (sound : s.files.Sound)
    (home : ".." ∉ s.files.home) (proper : ".." ∉ (Path.ofString f.destination).parts)
    (success : (StepM.runIn s (Engine.guarded (.action (v.action f)))).1 = .ok true) :
    let t := s.files
    let t' := (StepM.runIn s (Engine.guarded (.action (v.action f)))).2.files
    Arrives v t t' f.sourcePath (landing v t f.sourcePath (f.target t))
      ∧ (Arrives v t t' f.sourcePath (f.target t)
        ↔ ¬ (v = .copy ∧ isFolder t (f.target t) = .ok true)) := by
  intro t t'
  obtain ⟨a, b, bytes, t₁, grown, source, located, landed⟩ :=
    (course_guarded s f v).landed success sound home proper
  have arrives : Arrives v t t' f.sourcePath (landing v t f.sourcePath (f.target t)) :=
    ⟨a, b, bytes, arrived_of_landed grown source located landed⟩
  refine ⟨arrives, ?_⟩
  constructor
  · rintro ⟨_, _, _, arrived⟩ ⟨-, folder⟩
    obtain ⟨-, d, found⟩ := isFolder_eq_true_iff.mp folder
    obtain ⟨leads, there⟩ := find_eq_ok_iff.mp found
    -- the folder at the destination is still there
    have keeps := grown.keeps.trans landed.keeps
    have clash := (find_eq_ok_iff.mpr ⟨keeps.locate leads, keeps.folder d there⟩).symm.trans arrived.there
    cases clash
  · intro ordinary
    have direct : landing v t f.sourcePath (f.target t) = f.target t := by
      cases v with
      | move => rfl
      | copy =>
        have noFolder : (isFolder t (f.target t)).toOption.getD false ≠ true :=
          fun there => ordinary ⟨rfl, toOption_getD_eq_true_iff.mp there⟩
        rw [landing]
        exact if_neg noFolder
    rwa [direct] at arrives

/-- A file, and a folder in which a folder has the name of the file. -/
def namesakes : Tree :=
  ⟨[(["a.txt"], .file (encode "new")), (["d"], .folder), (["d", "a.txt"], .folder)], []⟩

/-- Everything stands in a folder. -/
theorem sound_namesakes : namesakes.Sound := by
  constructor
  · intro e mem
    simp only [namesakes, List.mem_cons, List.not_mem_nil, or_false] at mem
    rcases mem with rfl | rfl | rfl
    · rfl
    · rfl
    · rfl
  · rfl

/-- The file is to go into the folder. -/
def intoFolder : FileTransfer := ⟨"a.txt", "d", true⟩

/-- The file is to go into a folder that is missing. -/
def intoMissing : FileTransfer := ⟨"a.txt", "e/b.txt", true⟩

/-- A copy that comes upon a folder of the same name goes into it, but a move to a missing folder goes
where it should. -/
theorem arrives_iff_namesakes :
    let s := besideEachOther.withFiles namesakes
    let copied := StepM.runIn s (Engine.guarded (.action (TransferVerb.copy.action intoFolder)))
    let moved := StepM.runIn s (Engine.guarded (.action (TransferVerb.move.action intoMissing)))
    (s.files.Sound ∧ ".." ∉ s.files.home)
      ∧ (".." ∉ (Path.ofString intoFolder.destination).parts ∧ copied.1 = .ok true)
      ∧ ¬ Arrives .copy s.files copied.2.files (Path.ofString "a.txt") (Path.ofString "d/a.txt")
      ∧ Arrives .copy s.files copied.2.files (Path.ofString "a.txt") (Path.ofString "d/a.txt/a.txt")
      ∧ (".." ∉ (Path.ofString intoMissing.destination).parts ∧ moved.1 = .ok true)
      ∧ Arrives .move s.files moved.2.files (Path.ofString "a.txt") (Path.ofString "e/b.txt") := by
  intro s copied moved
  have home : ".." ∉ s.files.home := by decide
  have proper : ".." ∉ (Path.ofString intoFolder.destination).parts := by decide
  have proper' : ".." ∉ (Path.ofString intoMissing.destination).parts := by decide
  have success : copied.1 = .ok true := by decide +kernel
  have success' : moved.1 = .ok true := by decide +kernel
  obtain ⟨inside, intended⟩ := arrives_iff s intoFolder .copy sound_namesakes home proper success
  obtain ⟨-, intended'⟩ := arrives_iff s intoMissing .move sound_namesakes home proper' success'
  refine ⟨⟨sound_namesakes, home⟩, ⟨proper, success⟩, ?_, inside, ⟨proper', success'⟩, ?_⟩
  · intro arrives
    exact intended.mp arrives ⟨rfl, by decide⟩
  · exact intended'.mpr fun h => by cases h.1

end FileTransfer

end Deskwork
