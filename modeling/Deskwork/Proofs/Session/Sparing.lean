/-
# Steps that Fail

A step that copies, moves, renames or deletes something, makes a folder or asks whether something exists
may fail in the middle of its work. Whatever its paths and flags are, the files are spared (`Spared`): each
one stands where it stood with the same contents, none was added, and at most there are new folders, which
hold no files (`spared_of_failure`). Only a folder that is deleted with all that it holds may go in part.
-/
import Deskwork.Proofs.Session.Arrivals

namespace Deskwork

open Deskwork.Files Deskwork.Files.Tree Deskwork.Text

variable {t t' : Tree}

/-! ## Spared files -/

/-- The files are spared: at most there are new folders, which hold no files. -/
structure Spared (t t' : Tree) : Prop where
  /-- The same files stand at the same places. -/
  files : ∀ q, t'.fileAt? q = t.fileAt? q
  /-- Nothing else was taken away, and what is new is a folder. -/
  grown : t.Grown t'
  /-- No file stands at or below a place that was free. -/
  bare : ∀ q below, t.entry? q = none → t'.fileAt? (q ++ below) = none

/-- New folders hold no files. -/
theorem spared_of_grown (sound : t.Sound) (grown : t.Grown t') : Spared t t' := by
  constructor
  · exact fileAt?_of_grown grown
  · exact grown
  · intro q below free
    rw [fileAt?_of_grown grown]
    unfold Tree.fileAt?
    split
    case h_1 bytes file =>
      -- what stands below the place would stand in a folder there
      exfalso
      by_cases here : below = []
      · rw [here, List.append_nil, free] at file
        cases file
      · have folder := sound.folder_above file here
        rw [free] at folder
        cases folder
    case h_2 => rfl

namespace StepM

variable {α β : Type} {s : Session} {x : StepM α} {k : α → StepM β}

/-! ## Programs that leave the files alone -/

/-- A program leaves the files alone. -/
def Looking (x : StepM α) : Prop := ∀ s, (runIn s x).2.files = s.files

theorem looking_throw (f : Fault) : Looking (throw f : StepM α) := fun _ => rfl

theorem looking_askFiles (q : Tree → Except Files.Fault α) : Looking (askFiles q) := by
  intro s
  rw [runIn_askFiles]

theorem looking_tryAsk (failure : Files.Fault → Failure) (q : Tree → Except Files.Fault α) :
    Looking (tryAsk failure q) := by
  intro s
  unfold tryAsk
  rw [runIn_bind]
  show (runIn s _).2.files = _
  split
  · rfl
  · rfl

theorem looking_info (message : String) : Looking (info message) := by
  intro s
  obtain ⟨s', logged, same⟩ := runIn_info s message
  rw [logged]
  exact same

theorem looking_setVariable (name : String) (v : Scalar) : Looking (setVariable name v) :=
  fun _ => rfl

/-- A program leaves the files alone when both of its parts do. -/
theorem looking_bind (first : Looking x) (rest : ∀ a, Looking (k a)) : Looking (x >>= k) := by
  intro s
  have same := first s
  rw [runIn_bind]
  generalize runIn s x = p at same ⊢
  obtain ⟨r, s₁⟩ := p
  cases r with
  | error f => exact same
  | ok a => exact (rest a s₁).trans same

theorem looking_ite {c : Prop} [Decidable c] {y : StepM α} (yes : Looking x) (no : Looking y) :
    Looking (if c then x else y) := by
  split
  · exact yes
  · exact no

/-! ## Programs that fail -/

/-- A program that fails in a session has done no more to the files than to make folders. -/
def Sparing (s : Session) (x : StepM α) : Prop :=
  ∀ f s', runIn s x = (.error f, s') → s.files.Grown s'.files

theorem Looking.sparing (looking : Looking x) (s : Session) : Sparing s x := by
  intro f s' failed
  have same := looking s
  rw [failed] at same
  rw [same]
  exact .refl _

/-- What comes after a look at the files sees the same files. -/
theorem sparing_bind (first : Looking x) (rest : ∀ a s₁, s₁.files = s.files → Sparing s₁ (k a)) :
    Sparing s (x >>= k) := by
  intro f s' failed
  have same := first s
  rw [runIn_bind] at failed
  generalize runIn s x = p at same failed
  obtain ⟨r, s₁⟩ := p
  cases r with
  | error why =>
    cases failed
    rw [same]
    exact .refl _
  | ok a =>
    have grown := rest a s₁ same f s' failed
    rwa [same] at grown

/-- A program that ends with an operation on files and an entry in the log fails when the operation
does. -/
theorem sparing_tryFiles (failure : Files.Fault → Failure) {op : Tree → Outcome} (message : String)
    (leaves : ∀ why t', op s.files = (.error why, t') → s.files.Grown t') :
    Sparing s (do tryFiles failure op; info message) := by
  intro f s' failed
  rw [runIn_bind, runIn_tryFiles] at failed
  generalize ran : op s.files = o at failed
  obtain ⟨r, t'⟩ := o
  cases r with
  | error why =>
    cases failed
    exact leaves why t' ran
  | ok _ =>
    -- what is logged afterwards does not fail
    obtain ⟨s₁, logged, -⟩ := runIn_info (s.withFiles t') message
    dsimp only at failed
    rw [logged] at failed
    cases failed

/-- An elementary operation that fails leaves the tree as it was. -/
theorem grown_of_outcome {r : Except Files.Fault Tree} {why : Files.Fault}
    (failed : outcome t r = (.error why, t')) : t.Grown t' := by
  cases r with
  | error f =>
    cases failed
    exact .refl t
  | ok _ => cases failed

end StepM

open StepM

/-! ## The bodies -/

/-- A transfer makes the folders above its destination, and leaves the rest alone when it fails. -/
theorem FileTransfer.sparing_run (f : FileTransfer) (v : TransferVerb) (s : Session)
    (sound : s.files.Sound) (proper : ".." ∉ s.files.home) : Sparing s (f.run v) := by
  intro why s' failed
  by_cases unopposed : f.Unopposed s.files
  · obtain ⟨⟨r, t₁⟩, made⟩ : ∃ o, ensureFolder s.files (f.target s.files).parent = o := ⟨_, rfl⟩
    have grown := grown_of_ensureFolder made
    have ran := runIn_run s v unopposed made
    rw [failed] at ran
    cases r with
    | error stuck =>
      cases ran
      exact grown
    | ok _ =>
      obtain ⟨succeeds, left⟩ := ran
      obtain ⟨-, a, bytes, source⟩ := isFile_eq_true_iff.mp unopposed.there
      have lands := lands_of_made v sound proper source unopposed made
      generalize v.transfer t₁ f.sourcePath (f.target s.files) = o at succeeds left lands
      cases lands with
      | failed why noOther =>
        rw [left]
        exact grown
      | landed located landed => cases succeeds.mpr rfl
  · obtain ⟨_, forbidden⟩ := runIn_run_of_opposed s v unopposed
    rw [forbidden] at failed
    cases failed
    exact .refl _

/-- A file, or an empty folder, is deleted in one operation. -/
theorem Deletion.sparing_run (d : Deletion) (single : d.kind = .folder → d.recursive = false)
    (s : Session) : Sparing s d.run := by
  have elementary (t : Tree) : ∃ r, d.remove t = outcome t r := by
    unfold remove
    cases kind : d.kind with
    | file => exact ⟨_, rfl⟩
    | folder => exact ⟨_, if_neg (by simp [single kind])⟩
  unfold run
  apply sparing_bind (looking_tryAsk _ _)
  intro stands s₁ same
  split
  · exact (looking_throw _).sparing s₁
  · apply sparing_tryFiles
    intro why t' failed
    obtain ⟨r, same⟩ := elementary s₁.files
    exact grown_of_outcome (same ▸ failed)

/-- An entry is renamed in one operation. -/
theorem Renaming.sparing_run (r : Renaming) (s : Session) : Sparing s r.run := by
  unfold run
  apply sparing_bind (looking_askFiles _)
  intro there s₁ same
  split
  · exact (looking_throw _).sparing s₁
  apply sparing_bind (looking_askFiles _)
  intro destination s₂ same₂
  apply sparing_bind (looking_askFiles _)
  intro taken s₃ same₃
  split
  · exact (looking_throw _).sparing s₃
  · apply sparing_tryFiles
    intro why t' failed
    exact grown_of_outcome failed

/-- When folders are made, only folders are made. -/
theorem FolderCreation.sparing_run (f : FolderCreation) (s : Session) : Sparing s f.run := by
  apply sparing_tryFiles
  intro why t' made
  exact grown_of_ensureFolder made

/-- A question about an entry leaves the files alone. -/
theorem ExistenceCheck.looking_run (e : ExistenceCheck) : Looking e.run := by
  unfold run
  apply looking_bind (looking_askFiles _)
  intro answer
  have told : Looking (if answer then info ("Exists: " ++ (Path.ofString e.target).toString)
      else if e.required then throw (.failed (.absent (Path.ofString e.target)))
      else info ("Does not exist: " ++ (Path.ofString e.target).toString)) :=
    looking_ite (looking_info _) (looking_ite (looking_throw _) (looking_info _))
  exact looking_ite (looking_bind (looking_setVariable _ _) fun _ => told) told

/-! ## Steps that fail -/

/-- The action handles files, and does not delete a folder with all that it holds. -/
def Action.HandlesFiles : Action → Prop
  | .copyFile _ | .moveFile _ | .rename _ | .makeFolder _ | .fileExists _ => True
  | .delete d => d.kind = .folder → d.recursive = false
  | _ => False

/-- The body of a step that handles files spares them when it fails. -/
theorem Action.sparing_run (x : Action) (handles : x.HandlesFiles) (s : Session)
    (sound : s.files.Sound) (proper : ".." ∉ s.files.home) : Sparing s x.run := by
  cases x with
  | copyFile f => exact f.sparing_run .copy s sound proper
  | moveFile f => exact f.sparing_run .move s sound proper
  | delete d => exact d.sparing_run handles s
  | rename r => exact r.sparing_run s
  | makeFolder f => exact f.sparing_run s
  | fileExists e => exact e.looking_run.sparing s
  | _ => exact handles.elim

namespace StepM

variable {w : Work} {s : Session}

/-- A step that is executed and does not succeed leaves the files that its body leaves. -/
theorem execute_failed (h : (runIn s (execute w.run)).1 ≠ .ok true) :
    ∃ f s', runIn (begun s) w.run = (.error f, s')
      ∧ (runIn s (execute w.run)).2.files = s'.files := by
  rw [runIn_execute] at h ⊢
  generalize ran : runIn (begun s) w.run = o at h ⊢
  obtain ⟨r, s'⟩ := o
  cases r with
  | ok _ => exact absurd rfl h
  | error f =>
    refine ⟨f, s', rfl, ?_⟩
    dsimp only
    split
    · exact files_erred _ _
    · rfl

/-- A step that is checked and does not succeed leaves the files alone or as its body leaves them. -/
theorem attempt_failed (h : (runIn s (attempt w)).1 ≠ .ok true) :
    (runIn s (attempt w)).2.files = s.files ∨ ∃ f s', runIn (begun s) w.run = (.error f, s')
      ∧ (runIn s (attempt w)).2.files = s'.files := by
  rw [runIn_attempt] at h ⊢
  cases checked : w.check s.progress.visits with
  | ok _ =>
    rw [checked] at h
    exact .inr (execute_failed h)
  | error f =>
    left
    cases f with
    | invalid why => exact files_erred _ _
    | _ => rfl

/-- In whatever way a step is carried out: when it does not succeed, it leaves the files alone or as its
body leaves them. -/
theorem way_failed {way : StepM Bool} (mem : way ∈ w.ways) (h : (runIn s way).1 ≠ .ok true) :
    (runIn s way).2.files = s.files ∨ ∃ f s', runIn (begun s) w.run = (.error f, s')
      ∧ (runIn s way).2.files = s'.files := by
  simp only [Work.ways, List.mem_cons, List.not_mem_nil, or_false] at mem
  rcases mem with rfl | rfl | rfl
  · exact .inr (execute_failed h)
  · exact attempt_failed h
  · rw [runIn_guarded] at h ⊢
    have failed : (runIn s (attempt w)).1 ≠ .ok true := by
      intro success
      generalize runIn s (attempt w) = o at success h
      obtain ⟨r, s'⟩ := o
      subst success
      exact h rfl
    have left := attempt_failed failed
    generalize runIn s (attempt w) = o at left ⊢
    obtain ⟨r, s'⟩ := o
    cases r with
    | ok _ => exact left
    | error f =>
      dsimp only
      split
      · exact left
      · rw [files_erred]
        exact left

end StepM

/-- A step that handles files and does not succeed spares them, in whatever way it is carried out. The log can
be written to: otherwise every entry would be a fault of its own, also after a file was handled. -/
theorem spared_of_failure (s : Session) (_ready : s.desk.log.ready = .ok ())
    (sound : s.files.Sound) (proper : ".." ∉ s.files.home)
    (x : Action) (handles : x.HandlesFiles) (way : StepM Bool) (mem : way ∈ (Work.action x).ways)
    (failed : (runIn s way).1 ≠ .ok true) : Spared s.files (runIn s way).2.files := by
  apply spared_of_grown sound
  rcases way_failed mem failed with same | ⟨f, s', ran, same⟩
  · rw [same]
    exact .refl _
  · rw [same]
    exact x.sparing_run handles (begun s) sound proper f s' ran

/-- A file is to go to a folder by way of a folder that is missing. -/
def intoNamesake : FileTransfer := ⟨"a.txt", "missing/../d", false⟩

/-- The copy fails, for a folder has the name of the file. The missing folder was made before. -/
theorem spared_of_failure_namesake :
    let s := besideEachOther.withFiles FileTransfer.namesakes
    s.desk.log.ready = .ok () ∧ ∀ way ∈ (Work.action (.copyFile intoNamesake)).ways,
      (runIn s way).1 = .ok false
      ∧ Spared s.files (runIn s way).2.files
      ∧ (runIn s way).2.files.entry? ["missing"] = some .folder := by
  intro s
  refine ⟨rfl, fun way mem => ?_⟩
  have proper : ".." ∉ s.files.home := by decide
  have outcome : (runIn s way).1 = .ok false
      ∧ (runIn s way).2.files.entry? ["missing"] = some .folder := by
    simp only [Work.ways, List.mem_cons, List.not_mem_nil, or_false] at mem
    rcases mem with rfl | rfl | rfl
    · decide +kernel
    · decide +kernel
    · decide +kernel
  obtain ⟨failed, new⟩ := outcome
  refine ⟨failed, ?_, new⟩
  exact spared_of_failure s rfl FileTransfer.sound_namesakes proper (.copyFile intoNamesake) trivial way mem
    (by simp [failed])

end Deskwork
