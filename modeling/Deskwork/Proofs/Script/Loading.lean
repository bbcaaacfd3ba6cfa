/-
# Loading a Script

What becomes of a file that is loaded as a script, whatever it holds. Every entry of its list of steps
is read in turn, so that a script which is loaded has one step for each entry, of the kind of the entry
(`Script.readSteps_kindred`), and a file is refused with the first entry that cannot be read
(`Script.load_answers`). There is one way to fail without being refused: when what stands in the way
is an infinity in a field for a whole number. The main statement is `Script.load_settled_iff`.
-/
import Deskwork.CommandLine.Programs
import Deskwork.Proofs.Script.Forms

namespace Deskwork

open Deskwork.Files

namespace Script

/-! ## Entries -/

/-- The answer of an entry to what is demanded of a step of a script. -/
def entryResponse : Value → Response
  | .object fields => Step.response fields
  | _ => .unfit

/-- A step belongs to an entry: the entry is an object, and its tag is that of the step. -/
def Kindred (v : Value) (s : Step) : Prop :=
  ∃ fields, v = .object fields ∧ s.action.tag = Step.tagOf fields

/-- The faults of a step that are expected make a script unreadable, an overflow is passed on. -/
theorem wrap_answers {α : Type} {r : Except Fault α} {q : Response} (h : Answers r q) (index : Nat) :
    AnswersBy Fault.isScript (r.mapError (wrap index)) q := by
  cases h with
  | meets a => exact .meets a
  | boundless => exact .boundless
  | @unfit f expected =>
    have wrapped : wrap index f = .badStep index f := if_pos expected
    exact .unfit (by rw [wrapped]; rfl)

/-- The answer of one entry decides about its step. -/
theorem readStep_answers (index : Nat) (v : Value) :
    AnswersBy Fault.isScript (readStep index v) (entryResponse v) := by
  cases v with
  | object fields => exact wrap_answers (Step.ofFields_answers fields) index
  | scalar s => exact .unfit rfl
  | list items => exact .unfit rfl

/-- The step of an entry belongs to it. -/
theorem kindred_of_readStep {index : Nat} {v : Value} {s : Step} (h : readStep index v = .ok s) :
    Kindred v s := by
  cases v with
  | object fields =>
    rw [readStep, mapError_eq_ok_iff] at h
    exact ⟨fields, rfl, Step.tag_of_ofFields h⟩
  | scalar _ | list _ => cases h

/-- The entries are read in order, up to the first that does not answer what is demanded. -/
theorem readSteps_answers (index : Nat) (entries : List Value) :
    AnswersBy Fault.isScript (readSteps index entries)
      (Response.first (entries.map entryResponse)) := by
  induction entries generalizing index with
  | nil => exact .meets []
  | cons v entries ih =>
    exact (readStep_answers index v).bind fun s => (ih (index + 1)).map (s :: ·)

/-- There is one step for each entry, in order and of its kind. -/
theorem readSteps_kindred {index : Nat} {entries : List Value} {steps : List Step}
    (h : readSteps index entries = .ok steps) : List.Forall₂ Kindred entries steps := by
  induction entries generalizing index steps with
  | nil =>
    cases h
    exact .nil
  | cons v entries ih =>
    obtain ⟨s, first, h⟩ := bind_eq_ok_iff.mp h
    obtain ⟨others, rest, h⟩ := bind_eq_ok_iff.mp h
    cases h
    exact .cons (kindred_of_readStep first) (ih rest)

/-! ## Values -/

/-- The entries of the list of steps in a value, where there is such a list; a missing or an empty
value counts as the empty list. -/
def entries? : Value → Option (List Value)
  | .object fields =>
    let steps := Value.fieldOr fields "actions" (.list [])
    if !steps.isTrue then some []
    else
      match steps with
      | .list items => some items
      | _ => none
  | _ => none

/-- The answer of a value to what is demanded of a script. -/
def response (v : Value) : Response :=
  match entries? v with
  | some entries => .first (entries.map entryResponse)
  | none => .unfit

/-- A value is read as a script by way of its entries. -/
theorem ofValue_cases (v : Value) :
    (entries? v = none ∧ ∃ f, f.isScript = true ∧ ofValue v = .error f)
      ∨ ∃ entries name, entries? v = some entries
        ∧ ofValue v = (fun steps => ⟨name, steps⟩) <$> readSteps 1 entries := by
  cases v with
  | scalar s => exact .inl ⟨rfl, _, rfl, rfl⟩
  | list items => exact .inl ⟨rfl, _, rfl, rfl⟩
  | object fields =>
    simp only [entries?, ofValue]
    cases truth : (Value.fieldOr fields "actions" (.list [])).isTrue with
    | false => exact .inr ⟨[], _, rfl, rfl⟩
    | true =>
      cases steps : Value.fieldOr fields "actions" (.list []) with
      | list items => exact .inr ⟨items, _, rfl, rfl⟩
      | scalar s => exact .inl ⟨rfl, _, rfl, rfl⟩
      | object fs => exact .inl ⟨rfl, _, rfl, rfl⟩

/-- A value is read as a script exactly when it answers what is demanded. -/
theorem ofValue_answers (v : Value) : AnswersBy Fault.isScript (ofValue v) (response v) := by
  rcases ofValue_cases v with ⟨none, f, refused, failed⟩ | ⟨entries, name, some, read⟩
  · simp only [response, none, failed]
    exact .unfit refused
  · simp only [response, some, read]
    exact (readSteps_answers 1 entries).map _

/-- The steps of a script that is read belong to the entries. -/
theorem kindred_of_ofValue {v : Value} {s : Script} (h : ofValue v = .ok s) :
    ∃ entries, entries? v = some entries ∧ List.Forall₂ Kindred entries s.steps := by
  rcases ofValue_cases v with ⟨_, f, _, failed⟩ | ⟨entries, name, some, read⟩
  · rw [failed] at h
    cases h
  · obtain ⟨steps, found, rfl⟩ := map_eq_ok_iff.mp (read ▸ h)
    exact ⟨entries, some, readSteps_kindred found⟩

/-! ## Files -/

/-- The answer of the contents of a file to what is demanded of a script. -/
def fileResponse (t : Tree) (p : Path) : Response :=
  match readValue t p with
  | .ok v => response v
  | .error _ => .unfit

/-- A file is loaded exactly when its contents answer what is demanded. -/
theorem load_answers {t : Tree} {p : Path} (there : exists? t p = .ok true) :
    AnswersBy Fault.isScript (load t p) (fileResponse t p) := by
  simp only [load, there, fileResponse]
  cases readValue t p with
  | error why => exact .unfit rfl
  | ok v => exact ofValue_answers v

/-- The steps of a script that is loaded belong to the entries of the file. -/
theorem kindred_of_load {t : Tree} {p : Path} {s : Script} (h : load t p = .ok s) :
    ∃ v entries, readValue t p = .ok v ∧ entries? v = some entries
      ∧ List.Forall₂ Kindred entries s.steps := by
  unfold load at h
  split at h
  · cases h
  · cases h
  · split at h
    · cases h
    · rename_i v read
      obtain ⟨entries, some, kindred⟩ := kindred_of_ofValue h
      exact ⟨v, entries, read, some, kindred⟩

end Script

/-! ## The engine and the program -/

/-- An engine takes nothing of a file that it does not load. -/
theorem Engine.load_of_error {e : Engine} {p : Path} {f : Fault}
    (h : Script.load e.desk.machine.files p = .error f) : e.load p = (.error f, e) := by
  simp only [Engine.load, h]

/-- The program tells that a script cannot be loaded, and passes other faults on. -/
theorem CommandLine.runScript_of_error {arguments : List String} {m : Machine} {settings : Settings} {t : Tree}
    {p : Path} {f : Fault} (target : (CommandLine.read arguments).target = some p)
    (preferences : Settings.load m.files
      ((CommandLine.read arguments).settings.getD Settings.standardPath) = (.ok settings, t))
    (h : Script.load t p = .error f) :
    (runScript arguments m).1 = if f.isScript then .ok refused else .error f := by
  simp only [runScript, withTarget, target, preferences, scriptBody]
  rw [Engine.load_of_error h]
  dsimp only
  split <;> rfl

/-! ## What becomes of a file -/

/-- A file that holds anything at all is settled as a script, loaded with one step for each entry, in
order and of its kind, or else refused, exactly when no infinity stands in a field for a whole number
before anything else is wrong; with such an infinity the fault is that of the conversion. Whenever a
file is not loaded, the engine keeps its steps, its name and all else, and the program ends with the
code for a refused script, or with the fault of the conversion. -/
theorem Script.load_settled_iff (t : Tree) (p : Path) (there : exists? t p = .ok true) :
    (((∃ s v entries, load t p = .ok s ∧ readValue t p = .ok v ∧ entries? v = some entries
            ∧ List.Forall₂ Kindred entries s.steps)
          ∨ ∃ f, load t p = .error f ∧ f.isScript = true)
        ↔ fileResponse t p ≠ .boundless)
      ∧ (fileResponse t p = .boundless → load t p = .error (.conversion .infinite))
      ∧ ∀ f, load t p = .error f →
          (∀ e : Engine, e.desk.machine.files = t → e.load p = (.error f, e))
          ∧ ∀ (arguments : List String) (m : Machine) (settings : Settings),
              (CommandLine.read arguments).target = some p →
              Settings.load m.files
                  ((CommandLine.read arguments).settings.getD Settings.standardPath)
                = (.ok settings, t) →
              (CommandLine.runScript arguments m).1 = if f.isScript then .ok 2 else .error f := by
  have unchanged (f : Fault) (failed : load t p = .error f) (e : Engine)
      (files : e.desk.machine.files = t) : e.load p = (.error f, e) :=
    Engine.load_of_error (files ▸ failed)
  have code (f : Fault) (failed : load t p = .error f) (arguments : List String) (m : Machine)
      (settings : Settings) (target : (CommandLine.read arguments).target = some p)
      (preferences : Settings.load m.files
        ((CommandLine.read arguments).settings.getD Settings.standardPath) = (.ok settings, t)) :=
    CommandLine.runScript_of_error target preferences failed
  refine ⟨?_, ?_, fun f failed => ⟨unchanged f failed, code f failed⟩⟩
  · have answers := load_answers there
    constructor
    · rintro (⟨s, -, -, loaded, -⟩ | ⟨f, refused, script⟩) boundless
      · rw [loaded, boundless] at answers
        cases answers
      · rw [refused, boundless] at answers
        cases answers
        cases script
    · intro settled
      generalize outcome : load t p = r, fileResponse t p = q at answers settled
      cases answers with
      | meets s =>
        obtain ⟨v, entries, read, some, kindred⟩ := kindred_of_load outcome
        exact .inl ⟨s, v, entries, rfl, read, some, kindred⟩
      | unfit script => exact .inr ⟨_, rfl, script⟩
      | boundless => exact absurd rfl settled
  · intro boundless
    have answers := load_answers there
    rw [boundless] at answers
    generalize load t p = r at answers ⊢
    cases answers with
    | boundless => rfl

/-- A working folder with one file, a script whose only step clicks at an infinite place. -/
def endlessScript : Tree :=
  ⟨[(["s.json"], .file (Text.encode
    "\x7b\"actions\": [\x7b\"type\": \"mouse_click\", \"data\": \x7b\"x\": 1e999\x7d\x7d]\x7d"))], []⟩

/-- A click at an infinite place is a script that is neither loaded nor refused. -/
theorem Script.load_settled_iff_endless :
    exists? endlessScript (Path.ofString "s.json") = .ok true
      ∧ fileResponse endlessScript (Path.ofString "s.json") = .boundless
      ∧ load endlessScript (Path.ofString "s.json") = .error (.conversion .infinite) := by
  have boundless : fileResponse endlessScript (Path.ofString "s.json") = .boundless := by
    decide +kernel
  exact ⟨rfl, boundless, (load_settled_iff _ _ rfl).2.1 boundless⟩

end Deskwork
