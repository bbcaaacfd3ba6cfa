/-
# Steps that Take Files Elsewhere

What becomes of the files when a step copies, moves or renames one of them and is not allowed to replace
others. Before a transfer it is made sure that nothing stands at the destination, and the missing folders
above it are made afterwards. A path that led nowhere before may then lead to a file
(`FileTransfer.Overlooks`), and exactly in this case a file is lost (`lossless_iff`). A renaming makes no
folders and loses nothing (`lossless_rename`).
-/
import Deskwork.Proofs.Files.Copying
import Deskwork.Proofs.Session.Attempts

namespace Deskwork

open Deskwork.Files Deskwork.Files.Tree Deskwork.Text

/-! ## The files of a session -/

namespace Session

/-- The files. -/
def files (s : Session) : Tree := s.desk.machine.files

/-- The session with other files. -/
def withFiles (s : Session) (t : Tree) : Session :=
  { s with desk := { s.desk with machine := { s.desk.machine with files := t } } }

@[simp]
theorem files_withFiles (s : Session) (t : Tree) : (s.withFiles t).files = t := rfl

/-- Sessions that differ by their talk only have the same files. -/
theorem files_eq_of_hushed {s s' : Session} (h : s'.desk.hushed = s.desk.hushed) :
    s'.files = s.files := by
  show s'.desk.hushed.machine.files = s.desk.hushed.machine.files
  rw [h]

end Session

namespace StepM

/-- A question about the files leaves the session alone. -/
theorem runIn_askFiles {α : Type} (s : Session) (q : Tree → Except Files.Fault α) :
    runIn s (askFiles q) = ((q s.files).mapError .file, s) := by
  unfold askFiles files
  rw [runIn_bind, runIn_bind]
  show runIn s _ = _
  unfold Session.files
  cases q s.desk.machine.files <;> rfl

theorem runIn_changeFiles (s : Session) (f : Tree → Outcome) :
    runIn s (changeFiles f) = (.ok (f s.files).1, s.withFiles (f s.files).2) := rfl

/-- An operation on files fails when its outcome does, and leaves what its outcome leaves. -/
theorem runIn_tryFiles (failure : Files.Fault → Failure) (s : Session) (f : Tree → Outcome) :
    runIn s (tryFiles failure f) =
      match f s.files with
      | (.ok _, t) => (.ok (), s.withFiles t)
      | (.error why, t) =>
        (.error (if (Fault.file why).isSystem then .failed (failure why) else .file why),
          s.withFiles t) := by
  unfold tryFiles
  rw [runIn_bind, runIn_changeFiles]
  rcases f s.files with ⟨r, t⟩
  cases r <;> rfl

/-- An entry that is logged leaves the files alone. -/
theorem runIn_info (s : Session) (message : String) :
    ∃ s', runIn s (info message) = (.ok (), s') ∧ s'.files = s.files :=
  ⟨_, rfl, Session.files_eq_of_hushed (s.desk.hushed_logged .info s.name message)⟩

/-- An error that is logged leaves the files alone. -/
theorem files_erred (s : Session) (message : String) : (erred s message).files = s.files :=
  Session.files_eq_of_hushed (s.desk.hushed_logged .error s.name message)

/-- A step whose body fails does not succeed, and leaves the files that its body leaves. -/
theorem guarded_of_error {s s' : Session} {w : Work} {f : Fault}
    (valid : w.check s.progress.visits = .ok ()) (failed : runIn (begun s) w.run = (.error f, s')) :
    (runIn s (Engine.guarded w)).1 ≠ .ok true ∧ (runIn s (Engine.guarded w)).2.files = s'.files := by
  rw [runIn_guarded, runIn_attempt, valid]
  dsimp only
  rw [runIn_execute, failed]
  dsimp only
  split
  case h_1 ok t same =>
    split at same
    · cases same
      exact ⟨by simp, files_erred _ _⟩
    · cases same
  case h_2 f' t same =>
    split at same
    · cases same
    · cases same
      split
      · exact ⟨by simp, rfl⟩
      · exact ⟨by simp, files_erred _ _⟩

/-- A valid step succeeds when its body does, and leaves the files that its body leaves. -/
theorem guarded_of_valid {s : Session} {w : Work} (valid : w.check s.progress.visits = .ok ()) :
    ((runIn s (Engine.guarded w)).1 = .ok true ↔ (runIn (begun s) w.run).1 = .ok ())
      ∧ (runIn s (Engine.guarded w)).2.files = (runIn (begun s) w.run).2.files := by
  obtain ⟨⟨r, s'⟩, ran⟩ : ∃ o, runIn (begun s) w.run = o := ⟨_, rfl⟩
  cases r with
  | ok _ =>
    rw [guarded_of_run valid ran, ran]
    simp
  | error f =>
    obtain ⟨failed, left⟩ := guarded_of_error valid ran
    rw [left, ran]
    simp [failed]

/-- A step whose fields are not valid does not succeed, and leaves the files alone. -/
theorem guarded_of_invalid {s : Session} {w : Work} {f : Fault}
    (invalid : w.check s.progress.visits = .error f) :
    (runIn s (Engine.guarded w)).1 ≠ .ok true ∧ (runIn s (Engine.guarded w)).2.files = s.files := by
  obtain ⟨failed, same | ⟨message, logged⟩⟩ := guarded_of_check invalid
  · exact ⟨failed, by rw [same]⟩
  · exact ⟨failed, by rw [logged, files_erred]⟩

end StepM

/-! ## Nothing lost -/

/-- Every file stands where it stood, with the same contents. -/
def Keeping (t t' : Tree) : Prop :=
  ∀ q bytes, t.entry? q = some (.file bytes) → t'.entry? q = some (.file bytes)

/-- A file was taken to a path: it is found there with its contents, and every other file stands where it
stood. -/
structure Carried (t t' : Tree) (a : Place) (bytes : Bytes) (dst : Path) : Prop where
  /-- The file is found. -/
  arrived : ∃ b, t'.find dst = .ok (b, .file bytes)
  /-- The others are kept. -/
  others : ∀ q old, q ≠ a → t.entry? q = some (.file old) → t'.entry? q = some (.file old)

/-- No file is lost by a step that may take a file elsewhere: when it takes the file away and succeeds,
the file has been carried to its destination, and otherwise every file is kept. -/
structure Lossless (takes : Prop) (t t' : Tree) (r : Except Fault Bool) (a : Place) (bytes : Bytes)
    (dst : Path) : Prop where
  /-- A file that is taken away successfully has been carried. -/
  carried : takes → r = .ok true → Carried t t' a bytes dst
  /-- Otherwise every file is kept. -/
  kept : ¬ (takes ∧ r = .ok true) → Keeping t t'

/-- An action that is carried out in a session loses no file. -/
def Action.LosesNothing (x : Action) (takes : Prop) (s : Session) (a : Place) (bytes : Bytes)
    (dst : Path) : Prop :=
  Lossless takes s.files (StepM.runIn s (Engine.guarded (.action x))).2.files
    (StepM.runIn s (Engine.guarded (.action x))).1 a bytes dst

variable {t t' : Tree} {r : Except Fault Bool} {a : Place} {bytes : Bytes} {dst : Path} {takes : Prop}

/-- A step that fails loses nothing when it keeps every file. -/
theorem lossless_of_keeping (failed : r ≠ .ok true) (keeping : Keeping t t') :
    Lossless takes t t' r a bytes dst :=
  ⟨fun _ done => absurd done failed, fun _ => keeping⟩

/-- Of every other place a step that loses nothing keeps the file. -/
theorem Lossless.other (h : Lossless takes t t' r a bytes dst) {q : Place} (other : q ≠ a)
    {old : Bytes} (stood : t.entry? q = some (.file old)) : t'.entry? q = some (.file old) := by
  by_cases taken : takes ∧ r = .ok true
  · exact (h.carried taken.1 taken.2).others q old other stood
  · exact h.kept taken q old stood

/-! ## Copying and moving -/

/-- The action that transfers a file. -/
def TransferVerb.action : TransferVerb → FileTransfer → Action
  | .copy, f => .copyFile f
  | .move, f => .moveFile f

namespace FileTransfer

variable {f : FileTransfer} {v : TransferVerb}

/-- The path to which the file goes: into the folder at the destination, or else to the destination. -/
def target (f : FileTransfer) (t : Tree) : Path :=
  match isFolder t (Path.ofString f.destination) with
  | .ok true => (Path.ofString f.destination).child f.sourcePath.name
  | _ => Path.ofString f.destination

/-- Nothing is seen that speaks against a transfer. -/
structure Cleared (f : FileTransfer) (t : Tree) : Prop where
  /-- There is a source and a destination. -/
  valid : f.check = .ok ()
  /-- The paths are different by their texts. -/
  apart : samePlace t (f.target t) f.sourcePath = .ok false
  /-- Nothing stands at the destination. -/
  free : exists? t (f.target t) = .ok false

/-- A transfer overlooks a file: nothing is seen that speaks against it, but once the folders above the
destination are made, the path leads to a file with other contents. -/
def Overlooks (f : FileTransfer) (v : TransferVerb) (t : Tree) (bytes : Bytes) : Prop :=
  f.Cleared t ∧ ∃ t₁ b old, ensureFolder t (f.target t).parent = (.ok (), t₁)
    ∧ t₁.find (landing v t₁ f.sourcePath (f.target t)) = .ok (b, .file old) ∧ old ≠ bytes

/-- The destination that is looked at is the one to which the file goes. -/
theorem target_eq {inside : Bool} (folder : isFolder t (Path.ofString f.destination) = .ok inside) :
    (if inside = true then (Path.ofString f.destination).child f.sourcePath.name
      else Path.ofString f.destination) = f.target t := by
  unfold target
  rw [folder]
  cases inside <;> rfl

/-- Nothing is seen that forbids a transfer: there is a file to transfer, and if something stands at the
destination, it may be replaced. -/
structure Admitted (f : FileTransfer) (t : Tree) : Prop where
  /-- There is a source and a destination. -/
  valid : f.check = .ok ()
  /-- The source is a file. -/
  there : isFile t f.sourcePath = .ok true
  /-- The paths are different by their texts. -/
  apart : samePlace t (f.target t) f.sourcePath = .ok false
  /-- It is known whether something stands at the destination. -/
  answered : ∃ taken, exists? t (f.target t) = .ok taken ∧ (taken = true → f.overwrite = true)

/-- Nothing that stands among the files forbids a transfer, whether there is a source and a destination
or not. -/
structure Unopposed (f : FileTransfer) (t : Tree) : Prop where
  /-- The source is a file. -/
  there : isFile t f.sourcePath = .ok true
  /-- The paths are different by their texts. -/
  apart : samePlace t (f.target t) f.sourcePath = .ok false
  /-- It is known whether something stands at the destination. -/
  answered : ∃ taken, exists? t (f.target t) = .ok taken ∧ (taken = true → f.overwrite = true)

/-- When nothing forbids a transfer, nothing among the files does. -/
theorem Admitted.unopposed (admitted : f.Admitted t) : f.Unopposed t :=
  ⟨admitted.there, admitted.apart, admitted.answered⟩

/-- A transfer against which nothing speaks is not forbidden. -/
theorem Cleared.admitted (cleared : f.Cleared t) (there : isFile t f.sourcePath = .ok true) :
    f.Admitted t :=
  ⟨cleared.valid, there, cleared.apart, false, cleared.free, by simp⟩

/-- When nothing may be replaced, nothing speaks against a transfer that is not forbidden. -/
theorem Admitted.cleared (admitted : f.Admitted t) (keep : f.overwrite = false) : f.Cleared t := by
  obtain ⟨valid, -, apart, taken, known, allowed⟩ := admitted
  rw [keep] at allowed
  cases taken with
  | true => cases allowed rfl
  | false => exact ⟨valid, apart, known⟩

/-- Whether there is a folder at the destination is known when it is known whether something stands where
the file goes. -/
theorem Unopposed.folder (unopposed : f.Unopposed t) :
    ∃ inside, isFolder t (Path.ofString f.destination) = .ok inside := by
  cases folder : isFolder t (Path.ofString f.destination) with
  | ok inside => exact ⟨inside, rfl⟩
  | error why =>
    obtain ⟨taken, known, -⟩ := unopposed.answered
    have given : f.target t = Path.ofString f.destination := by
      unfold target
      rw [folder]
    rw [given, exists_of_isFolder_error folder] at known
    cases known

/-- When nothing among the files forbids a transfer, the folders above the destination are made. -/
theorem runIn_resolve (s : Session) (unopposed : f.Unopposed s.files) :
    StepM.runIn s f.resolve =
      match ensureFolder s.files (f.target s.files).parent with
      | (.ok _, t) => (.ok (f.target s.files), s.withFiles t)
      | (.error why, t) => (.error (.file why), s.withFiles t) := by
  obtain ⟨inside, folder⟩ := unopposed.folder
  obtain ⟨taken, known, allowed⟩ := unopposed.answered
  have pass : (taken && !f.overwrite) = false := by
    cases taken with
    | false => rfl
    | true => rw [allowed rfl]; rfl
  unfold resolve
  simp only [StepM.runIn_bind, StepM.runIn_askFiles, StepM.runIn_changeFiles, unopposed.there, folder,
    Except.mapError, Bool.not_true, Bool.false_eq_true, if_false, target_eq folder, unopposed.apart,
    known, pass]
  rcases ensureFolder s.files (f.target s.files).parent with ⟨r, t⟩
  cases r <;> rfl

/-- When something among the files forbids a transfer, they are left alone. -/
theorem runIn_resolve_of_opposed (s : Session) (opposed : ¬ f.Unopposed s.files) :
    ∃ why, StepM.runIn s f.resolve = (.error why, s) := by
  unfold resolve
  cases there : isFile s.files f.sourcePath with
  | error why =>
    simp only [StepM.runIn_bind, StepM.runIn_askFiles, there, Except.mapError]
    exact ⟨_, rfl⟩
  | ok file =>
    cases file with
    | false =>
      simp only [StepM.runIn_bind, StepM.runIn_askFiles, there, Except.mapError, Bool.not_false, if_true]
      exact ⟨_, rfl⟩
    | true =>
      cases folder : isFolder s.files (Path.ofString f.destination) with
      | error why =>
        simp only [StepM.runIn_bind, StepM.runIn_askFiles, there, folder, Except.mapError, Bool.not_true,
          Bool.false_eq_true, if_false]
        exact ⟨_, rfl⟩
      | ok inside =>
        simp only [StepM.runIn_bind, StepM.runIn_askFiles, there, folder, Except.mapError, Bool.not_true,
          Bool.false_eq_true, if_false, target_eq folder]
        cases apart : samePlace s.files (f.target s.files) f.sourcePath with
        | error why => exact ⟨_, rfl⟩
        | ok same =>
          cases same with
          | true => exact ⟨_, rfl⟩
          | false =>
            simp only [Bool.false_eq_true, if_false, StepM.runIn_bind, StepM.runIn_askFiles]
            cases known : exists? s.files (f.target s.files) with
            | error why => exact ⟨_, rfl⟩
            | ok taken =>
              have blocked : (taken && !f.overwrite) = true := by
                by_contra pass
                refine opposed ⟨there, apart, taken, known, ?_⟩
                rintro rfl
                simpa using pass
              simp only [Except.mapError, blocked, if_true]
              exact ⟨_, rfl⟩

/-- The course of a step that transfers a file, with its result and the files that it leaves. -/
inductive Course (f : FileTransfer) (v : TransferVerb) (t : Tree) : Except Fault Bool → Tree → Prop where
  /-- It is forbidden. -/
  | refused {r : Except Fault Bool} (forbidden : ¬ f.Admitted t) (failed : r ≠ .ok true) :
      Course f v t r t
  /-- The folders above the destination cannot be made. -/
  | stuck {r : Except Fault Bool} {why : Files.Fault} {t₁ : Tree}
      (made : ensureFolder t (f.target t).parent = (.error why, t₁)) (failed : r ≠ .ok true) :
      Course f v t r t₁
  /-- The file is transferred, or the transfer fails. -/
  | transferred {r : Except Fault Bool} {o : Except Files.Fault Unit} {t₁ t' : Tree}
      (admitted : f.Admitted t) (made : ensureFolder t (f.target t).parent = (.ok (), t₁))
      (outcome : v.transfer t₁ f.sourcePath (f.target t) = (o, t'))
      (done : r = .ok true ↔ o = .ok ()) : Course f v t r t'

/-- The body of a transfer that nothing among the files forbids: the folders above the destination are
made, and then the file is transferred. -/
theorem runIn_run (s : Session) (v : TransferVerb) (unopposed : f.Unopposed s.files)
    {r : Except Files.Fault Unit} {t₁ : Tree}
    (made : ensureFolder s.files (f.target s.files).parent = (r, t₁)) :
    match r with
    | .error why => StepM.runIn s (f.run v) = (.error (.file why), s.withFiles t₁)
    | .ok _ =>
      ((StepM.runIn s (f.run v)).1 = .ok ()
          ↔ (v.transfer t₁ f.sourcePath (f.target s.files)).1 = .ok ())
        ∧ (StepM.runIn s (f.run v)).2.files = (v.transfer t₁ f.sourcePath (f.target s.files)).2 := by
  have resolved := runIn_resolve s unopposed
  rw [made] at resolved
  unfold run
  cases r with
  | error why =>
    dsimp only
    rw [StepM.runIn_bind, resolved]
  | ok _ =>
    dsimp only
    rw [StepM.runIn_bind, resolved]
    dsimp only
    rw [StepM.runIn_bind, StepM.runIn_tryFiles, Session.files_withFiles]
    rcases v.transfer t₁ f.sourcePath (f.target s.files) with ⟨o, t'⟩
    cases o with
    | error why => simp
    | ok _ =>
      obtain ⟨s', logged, left⟩ := StepM.runIn_info ((s.withFiles t₁).withFiles t')
        (v.word ++ ": " ++ f.source ++ " -> " ++ (f.target s.files).toString)
      dsimp only
      rw [logged]
      exact ⟨by simp, left⟩

/-- The body of a transfer that something among the files forbids fails, and leaves the session alone. -/
theorem runIn_run_of_opposed (s : Session) (v : TransferVerb) (opposed : ¬ f.Unopposed s.files) :
    ∃ why, StepM.runIn s (f.run v) = (.error why, s) := by
  obtain ⟨why, failed⟩ := runIn_resolve_of_opposed s opposed
  exact ⟨why, by rw [run, StepM.runIn_bind, failed]⟩

/-- A step that transfers a file takes such a course. -/
theorem course_guarded (s : Session) (f : FileTransfer) (v : TransferVerb) :
    f.Course v s.files (StepM.runIn s (Engine.guarded (.action (v.action f)))).1
      (StepM.runIn s (Engine.guarded (.action (v.action f)))).2.files := by
  have check : (Work.action (v.action f)).check s.progress.visits = f.check := by cases v <;> rfl
  have body : (Work.action (v.action f)).run = f.run v := by cases v <;> rfl
  cases valid : f.check with
  | error why =>
    obtain ⟨failed, left⟩ := StepM.guarded_of_invalid (check.trans valid)
    rw [left]
    refine .refused ?_ failed
    intro admitted
    have clash := valid.symm.trans admitted.valid
    cases clash
  | ok _ =>
    obtain ⟨succeeds, left⟩ := StepM.guarded_of_valid (check.trans valid)
    rw [body] at succeeds left
    rw [left]
    by_cases unopposed : f.Unopposed s.files
    · have admitted : f.Admitted s.files :=
        ⟨valid, unopposed.there, unopposed.apart, unopposed.answered⟩
      obtain ⟨⟨r, t₁⟩, made⟩ : ∃ o, ensureFolder s.files (f.target s.files).parent = o := ⟨_, rfl⟩
      have ran := runIn_run (StepM.begun s) v unopposed made
      cases r with
      | error why =>
        rw [ran] at succeeds ⊢
        refine .stuck made ?_
        simp [succeeds]
      | ok _ =>
        rw [ran.2]
        exact .transferred admitted made rfl (succeeds.trans ran.1)
    · obtain ⟨why, ran⟩ := runIn_run_of_opposed (StepM.begun s) v unopposed
      rw [ran] at succeeds ⊢
      refine .refused (fun admitted => unopposed admitted.unopposed) ?_
      simp [succeeds]

/-- Paths that are different by their texts hold no null characters. -/
theorem Unopposed.noNull (unopposed : f.Unopposed t) :
    f.sourcePath.hasNull = false ∧ (f.target t).hasNull = false := by
  have apart := unopposed.apart
  unfold samePlace at apart
  split at apart
  · cases apart
  case isFalse noNull =>
    simp only [Bool.or_eq_true, not_or, Bool.not_eq_true] at noNull
    exact ⟨noNull.2, noNull.1⟩

/-- The path to which a file goes has a name. -/
theorem Unopposed.named (unopposed : f.Unopposed t) (sound : t.Sound) (named : f.sourcePath.name ≠ "") :
    (f.target t).name ≠ "" := by
  obtain ⟨inside, folder⟩ := unopposed.folder
  have goes := target_eq folder
  cases inside with
  | true =>
    rw [← goes, if_pos rfl, Path.name_child]
    exact named
  | false =>
    rw [if_neg Bool.false_ne_true] at goes
    rw [← goes]
    exact name_ne_empty_of_not_folder sound (goes ▸ unopposed.noNull.2) folder

/-- Paths that are different by their texts lead to different places, also when folders were made. -/
theorem Unopposed.other (unopposed : f.Unopposed t) (proper : ".." ∉ t.home)
    (source : t.locate f.sourcePath = .ok a) (home : t'.home = t.home) {b : Place}
    (located : t'.locate (f.target t) = .ok b) : b ≠ a := by
  have apart := unopposed.apart
  unfold samePlace at apart
  split at apart
  · cases apart
  · rintro rfl
    have here := locate_eq_resolve (home ▸ proper) located
    have there := locate_eq_resolve proper source
    rw [home] at here
    rw [← here, ← there] at apart
    simp at apart

/-- When nothing among the files forbids a transfer, and the folders above the destination are made, the
file lands or all is left alone. -/
theorem lands_of_made (v : TransferVerb) {t₁ : Tree} (sound : t.Sound) (proper : ".." ∉ t.home)
    (source : t.find f.sourcePath = .ok (a, .file bytes)) (unopposed : f.Unopposed t)
    (made : ensureFolder t (f.target t).parent = (.ok (), t₁)) :
    Lands v t₁ f.sourcePath (f.target t) a bytes (v.transfer t₁ f.sourcePath (f.target t)) := by
  have named := name_ne_empty_of_file sound source
  obtain ⟨sound₁, keeps, d, above⟩ := made_of_ensureFolder sound made
  have grown := grown_of_ensureFolder made
  obtain ⟨located, file⟩ := find_eq_ok_iff.mp source
  have source₁ : t₁.find f.sourcePath = .ok (a, .file bytes) :=
    find_eq_ok_iff.mpr ⟨keeps.locate located, grown.stays file⟩
  cases v with
  | copy => exact lands_copy unopposed.noNull named source₁
  | move =>
    exact lands_move sound₁ unopposed.noNull ⟨named, unopposed.named sound named⟩ source₁
      (above_of_find above) fun b leads => unopposed.other proper located keeps.home leads

/-- A transfer that lands keeps every file but the one that it takes, when it overlooks none. -/
theorem kept_of_landed {t₁ : Tree} {b q : Place} {old : Bytes} (grown : t.Grown t₁)
    (landed : Landed v t₁ t' a b bytes)
    (same : ∀ old, t₁.entry? b = some (.file old) → old = bytes) (stays : v = .move → q ≠ a)
    (stood : t.entry? q = some (.file old)) : t'.entry? q = some (.file old) := by
  by_cases here : q = b
  · subst here
    rw [landed.there, same old (grown.stays stood)]
  · rw [landed.others q here stays]
    exact grown.stays stood

/-- A transfer that overlooks a file comes upon it when the folders above the destination are made. -/
theorem Overlooks.hits (overlooks : f.Overlooks v t bytes) {t₁ : Tree}
    (made : ensureFolder t (f.target t).parent = (.ok (), t₁)) :
    ∃ b old, t₁.find (landing v t₁ f.sourcePath (f.target t)) = .ok (b, .file old) ∧ old ≠ bytes := by
  obtain ⟨-, t₁', b, old, made', found, differ⟩ := overlooks
  obtain rfl : t₁ = t₁' := congrArg Prod.snd (made.symm.trans made')
  exact ⟨b, old, found, differ⟩

/-- A transfer that lands loses no file exactly when it overlooks none. -/
theorem lossless_iff_of_landed {t₁ : Tree} {b : Place} (cleared : f.Cleared t)
    (made : ensureFolder t (f.target t).parent = (.ok (), t₁))
    (located : t₁.locate (landing v t₁ f.sourcePath (f.target t)) = .ok b)
    (landed : Landed v t₁ t' a b bytes) (success : r = .ok true) :
    Lossless (v = .move) t t' r a bytes (f.target t) ↔ ¬ f.Overlooks v t bytes := by
  have grown := grown_of_ensureFolder made
  constructor
  · intro lossless overlooks
    obtain ⟨b', old, found, differ⟩ := overlooks.hits made
    obtain ⟨located', stood⟩ := find_eq_ok_iff.mp found
    obtain rfl : b = b' := Except.ok.inj (located.symm.trans located')
    have kept := lossless.other landed.apart (grown.was stood)
    rw [landed.there] at kept
    cases kept
    exact differ rfl
  · intro overlooks
    have same : ∀ old, t₁.entry? b = some (.file old) → old = bytes := by
      intro old stood
      by_contra differ
      exact overlooks ⟨cleared, t₁, b, old, made, find_eq_ok_iff.mpr ⟨located, stood⟩, differ⟩
    constructor
    · rintro rfl -
      constructor
      · exact ⟨b, find_eq_ok_iff.mpr ⟨landed.keeps.locate located, landed.there⟩⟩
      · intro q old other stood
        exact kept_of_landed grown landed same (fun _ => other) stood
    · intro copied q old stood
      exact kept_of_landed grown landed same (fun moves => absurd ⟨moves, success⟩ copied) stood

/-- A step that copies or moves a file, and is not allowed to replace others, loses no file exactly when
it overlooks none. -/
theorem lossless_transfer_iff (s : Session) (f : FileTransfer) (v : TransferVerb)
    (sound : s.files.Sound) (proper : ".." ∉ s.files.home) (keep : f.overwrite = false)
    (noNull : f.sourcePath.hasNull = false)
    (source : s.files.find f.sourcePath = .ok (a, .file bytes)) :
    (v.action f).LosesNothing (v = .move) s a bytes (f.target s.files)
      ↔ ¬ f.Overlooks v s.files bytes := by
  have there : isFile s.files f.sourcePath = .ok true := ask_of_find noNull source _
  have course := course_guarded s f v
  unfold Action.LosesNothing
  generalize (StepM.runIn s (Engine.guarded (.action (v.action f)))).1 = r at course ⊢
  generalize (StepM.runIn s (Engine.guarded (.action (v.action f)))).2.files = t' at course ⊢
  generalize s.files = t at sound proper source there course ⊢
  cases course with
  | refused forbidden failed =>
    refine iff_of_true (lossless_of_keeping failed fun _ _ => id) ?_
    intro overlooks
    exact forbidden (overlooks.1.admitted there)
  | stuck made failed =>
    have grown := grown_of_ensureFolder made
    refine iff_of_true (lossless_of_keeping failed fun _ _ => grown.stays) ?_
    rintro ⟨-, t₁, b, old, made', -⟩
    have clash := made.symm.trans made'
    cases clash
  | @transferred o t₁ _ admitted made outcome done =>
    have lands := lands_of_made v sound proper source admitted.unopposed made
    rw [outcome] at lands
    cases lands with
    | landed located landed =>
      exact lossless_iff_of_landed (admitted.cleared keep) made located landed (done.mpr rfl)
    | failed why noOther =>
      -- the only file on which the transfer may have come is its own
      have grown := grown_of_ensureFolder made
      have failed : r ≠ .ok true := by simp [done]
      refine iff_of_true (lossless_of_keeping failed fun _ _ => grown.stays) ?_
      intro overlooks
      obtain ⟨b, old, found, differ⟩ := overlooks.hits made
      obtain rfl := noOther b old found
      have own := grown.stays (find_eq_ok_iff.mp source).2
      have clash := own.symm.trans (find_eq_ok_iff.mp found).2
      cases clash
      exact differ rfl

end FileTransfer

/-! ## Renaming -/

namespace Renaming

/-- The path under the new name. -/
def target (r : Renaming) : Path := r.path.rename r.newName

/-- The path under the new name, when there can be one: then the new name is not empty. -/
theorem destination_eq_ok {r : Renaming} {p : Path} (h : r.destination = .ok p) :
    p = r.target ∧ r.newName ≠ "" := by
  unfold destination at h
  dsimp only at h
  split at h
  · cases h
  · split at h
    · cases h
    case isFalse proper =>
      cases h
      refine ⟨rfl, ?_⟩
      intro empty
      rw [empty] at proper
      exact proper rfl

/-- The body of a renaming that must not replace anything fails and leaves the session alone, or it
replaces nothing. -/
theorem runIn_run (s : Session) (r : Renaming) (keep : r.overwrite = false)
    (there : exists? s.files r.path = .ok true) :
    (∃ why, StepM.runIn s r.run = (.error why, s))
      ∨ r.newName ≠ "" ∧ exists? s.files r.target = .ok false ∧ ∃ t s',
        replace s.files r.path r.target = .ok t ∧ StepM.runIn s r.run = (.ok (), s')
          ∧ s'.files = t := by
  unfold run
  simp only [StepM.runIn_bind, StepM.runIn_askFiles, there, Except.mapError, Bool.not_true,
    Bool.false_eq_true, if_false]
  cases named : r.destination with
  | error why => exact .inl ⟨_, rfl⟩
  | ok p =>
    obtain ⟨rfl, name⟩ := destination_eq_ok named
    dsimp only
    cases free : exists? s.files r.target with
    | error why => exact .inl ⟨_, rfl⟩
    | ok taken =>
      cases taken with
      | true =>
        simp only [keep, Bool.not_false, Bool.and_self, if_true]
        exact .inl ⟨_, rfl⟩
      | false =>
        simp only [Bool.false_and, Bool.false_eq_true, if_false, StepM.runIn_bind,
          StepM.runIn_tryFiles]
        cases replaced : replace s.files r.path r.target with
        | error why => exact .inl ⟨_, rfl⟩
        | ok t =>
          obtain ⟨s', logged, left⟩ := StepM.runIn_info (s.withFiles t)
            ("Renamed: " ++ r.path.toString ++ " -> " ++ r.target.toString)
          exact .inr ⟨name, trivial, t, s', rfl, logged, left⟩

/-- A file that is renamed to a free name has been carried there. -/
theorem carried_of_replace {p : Path} {name : String} (sound : t.Sound)
    (named : p.name ≠ "" ∧ name ≠ "") (source : t.find p = .ok (a, .file bytes))
    (free : exists? t (p.rename name) = .ok false)
    (replaced : Files.replace t p (p.rename name) = .ok t') : Carried t t' a bytes (p.rename name) := by
  have noNull : p.hasNull = false ∧ (p.rename name).hasNull = false := by
    unfold Files.replace at replaced
    split at replaced
    · cases replaced
    case isFalse noNull => simpa using noNull
  have newNamed : (p.rename name).name ≠ "" := by
    rw [Path.name_rename]
    exact named.2
  obtain ⟨-, d, above, -, -⟩ := takes_of_file sound named.1 source
  obtain ⟨noDots, target, nothing⟩ := takes_of_free sound noNull.2 newNamed (above.rename name) free
  obtain ⟨t₁, replaced', moved⟩ := replace_of_takes sound noNull ⟨named.1, newNamed⟩ noDots source
    (above.rename name) target
  obtain rfl : t' = t₁ := Except.ok.inj (replaced.symm.trans replaced')
  have keeps := moved.keeps (find_eq_ok_iff.mp source).2 target.free
  constructor
  · exact ⟨_, find_eq_ok_iff.mpr ⟨keeps.locate target.located, moved.there⟩⟩
  · intro q old other stood
    have elsewhere : q ≠ d ++ [(p.rename name).name] := by
      rintro rfl
      rw [nothing] at stood
      cases stood
    rw [moved.others q other elsewhere, stood]

/-- A step that renames a file, and is not allowed to replace others, loses no file. -/
theorem lossless_rename (s : Session) (r : Renaming) (sound : s.files.Sound)
    (keep : r.overwrite = false) (noNull : r.path.hasNull = false)
    (source : s.files.find r.path = .ok (a, .file bytes)) :
    (Action.rename r).LosesNothing True s a bytes r.target := by
  have there : exists? s.files r.path = .ok true := ask_of_find noNull source _
  unfold Action.LosesNothing
  cases valid : r.check with
  | error why =>
    obtain ⟨failed, left⟩ := StepM.guarded_of_invalid (s := s) (w := .action (.rename r)) valid
    rw [left]
    exact lossless_of_keeping failed fun _ _ => id
  | ok _ =>
    obtain ⟨succeeds, left⟩ := StepM.guarded_of_valid (s := s) (w := .action (.rename r)) valid
    have body : (Work.action (.rename r)).run = r.run := rfl
    rw [body] at succeeds left
    rw [left]
    rcases runIn_run (StepM.begun s) r keep there with
      ⟨why, failed⟩ | ⟨named, free, t, s', replaced, ran, after⟩
    · rw [failed] at succeeds ⊢
      refine lossless_of_keeping ?_ fun _ _ => id
      simp [succeeds]
    · rw [ran] at succeeds ⊢
      have success := succeeds.mpr rfl
      have carried := carried_of_replace sound ⟨name_ne_empty_of_file sound source, named⟩ source free
        replaced
      constructor
      · intro _ _
        rw [after]
        exact carried
      · intro failed
        exact absurd ⟨trivial, success⟩ failed

end Renaming

/-! ## Steps that may not replace files -/

/-- When a step may not replace files, a copy or a move of a regular file loses a file exactly when it
overlooks one, whether the step succeeds or fails, and a renaming loses none. -/
theorem lossless_iff (s : Session) (sound : s.files.Sound) (proper : ".." ∉ s.files.home) :
    (∀ (f : FileTransfer) (v : TransferVerb) (a : Place) (bytes : Bytes), f.overwrite = false →
        f.sourcePath.hasNull = false → s.files.find f.sourcePath = .ok (a, .file bytes) →
        ((v.action f).LosesNothing (v = .move) s a bytes (f.target s.files)
          ↔ ¬ f.Overlooks v s.files bytes))
      ∧ ∀ (r : Renaming) (a : Place) (bytes : Bytes), r.overwrite = false →
        r.path.hasNull = false → s.files.find r.path = .ok (a, .file bytes) →
        (Action.rename r).LosesNothing True s a bytes r.target := by
  constructor
  · intro f v a bytes keep noNull source
    exact FileTransfer.lossless_transfer_iff s f v sound proper keep noNull source
  · intro r a bytes keep noNull source
    exact Renaming.lossless_rename s r sound keep noNull source

/-- Two files in the working folder, which is the root. -/
def twoFiles : Tree :=
  ⟨[(["a.txt"], .file (encode "new")), (["b.txt"], .file (encode "old"))], []⟩

/-- Both files stand in a folder. -/
theorem sound_twoFiles : twoFiles.Sound := by
  constructor
  · intro e mem
    simp only [twoFiles, List.mem_cons, List.not_mem_nil, or_false] at mem
    rcases mem with rfl | rfl
    · rfl
    · rfl
  · rfl

/-- A session with two files. -/
def besideEachOther : Session :=
  Session.withFiles ⟨.blank, .empty false, false, none, true, 1, "step", .fresh, []⟩ twoFiles

/-- The first file is to go to the other one, by way of a folder that does not exist. -/
def roundabout : FileTransfer := ⟨"a.txt", "missing/../b.txt", false⟩

/-- The first file is to get the name of a file that does not exist. -/
def toFreshName : Renaming := ⟨"a.txt", "c.txt", false⟩

/-- The other file is overlooked, for it is not seen while the folder does not exist. -/
theorem overlooks_roundabout (v : TransferVerb) : roundabout.Overlooks v twoFiles (encode "new") := by
  refine ⟨⟨by decide, by decide, by decide⟩, twoFiles.put ["missing"] .folder, ["b.txt"],
    encode "old", by decide, ?_, by decide⟩
  cases v with
  | copy => decide
  | move => decide

/-- By way of the missing folder a copy loses the other file, and so does a move, but a renaming to a
fresh name loses none. -/
theorem lossless_iff_roundabout :
    (besideEachOther.files.Sound ∧ ".." ∉ besideEachOther.files.home)
      ∧ (roundabout.overwrite = false ∧ roundabout.sourcePath.hasNull = false
        ∧ besideEachOther.files.find roundabout.sourcePath = .ok (["a.txt"], .file (encode "new")))
      ∧ (∀ v : TransferVerb, ¬ (v.action roundabout).LosesNothing (v = .move) besideEachOther
        ["a.txt"] (encode "new") (roundabout.target besideEachOther.files))
      ∧ (toFreshName.overwrite = false ∧ toFreshName.path.hasNull = false
        ∧ besideEachOther.files.find toFreshName.path = .ok (["a.txt"], .file (encode "new")))
      ∧ (Action.rename toFreshName).LosesNothing True besideEachOther ["a.txt"] (encode "new")
        toFreshName.target := by
  have proper : ".." ∉ besideEachOther.files.home := by decide
  obtain ⟨transfers, renamings⟩ := lossless_iff besideEachOther sound_twoFiles proper
  have source : besideEachOther.files.find roundabout.sourcePath
      = .ok (["a.txt"], .file (encode "new")) := by decide
  refine ⟨⟨sound_twoFiles, proper⟩, ⟨rfl, by decide, source⟩, ?_, ⟨rfl, by decide, source⟩, ?_⟩
  · intro v lossless
    exact (transfers roundabout v _ _ rfl (by decide) source).mp lossless (overlooks_roundabout v)
  · exact renamings toFreshName _ _ rfl (by decide) source

end Deskwork
