/-
# Reading and Writing Template Fields

The laws of template fields, over all kinds of work. A field that is written to leaves every other
field as it reads (`Work.read_write_of_ne`), writes to different fields commute (`Work.write_comm`),
and writing back what a field held undoes any write to it (`Work.write_read`). From these laws it
follows that writing back several fields commutes with a write to any other (`Work.restore_write`).
-/
import Deskwork.Step.Basic
import Mathlib.Tactic.SplitIfs

namespace Deskwork

open Template

/-! ## Contents -/

namespace Template.Content

/-- The texts in a field. -/
def pieces : Content → List String
  | .text s => [s]
  | .texts items => items
  | .other => []

@[simp]
theorem ofValue_text (s : String) : ofValue (Value.text s) = .text s := rfl

@[simp]
theorem ofValue_texts (items : List String) :
    ofValue (.list (items.map Value.text)) = .texts items := by
  induction items with
  | nil => rfl
  | cons item items ih =>
    simp only [ofValue, List.map_cons, texts.injEq] at ih ⊢
    rw [List.filterMap_cons, ih]
    rfl

@[simp]
theorem textOr_text (old s : String) : textOr old (.text s) = s := rfl

@[simp]
theorem textsOr_texts (old items : List String) : textsOr old (.texts items) = items := rfl

end Template.Content

/-! ## The laws of fields -/

namespace Work

/-- Writing to a field leaves every other field as it reads. -/
theorem read_write_of_ne {n m : String} (h : n ≠ m) (c : Content) (w : Work) :
    (w.write m c).read n = w.read n := by
  have hne : (n == m) = false := beq_eq_false_iff_ne.mpr h
  cases w with
  | bare => rfl
  | probe p =>
    unfold write Probe.write
    split_ifs
    all_goals
      subst_vars
      simp only [read, fields, Probe.fields, Value.fieldOr, Value.field?, List.lookup_cons, hne]
  | action a =>
    cases a
    all_goals
      simp only [write, Action.write, Keyboard.write, Waiting.write, Windowing.write,
        FileTransfer.write, Deletion.write, Renaming.write, FolderCreation.write,
        ExistenceCheck.write, Assignment.write, Branch.write, LoopEnd.write, Webhook.write]
      try split_ifs
    -- The look-up of one name passes over the field of the other.
    all_goals
      subst_vars
      simp only [read, fields, Action.fields, Keyboard.fields, Waiting.fields, Windowing.fields,
        FileTransfer.fields, Deletion.fields, Renaming.fields, FolderCreation.fields,
        ExistenceCheck.fields, Assignment.fields, Branch.fields, LoopEnd.fields, Webhook.fields,
        Value.fieldOr, Value.field?, List.lookup_cons, hne]

/-- Writes to different fields commute. -/
theorem write_comm {n m : String} (h : n ≠ m) (c c' : Content) (w : Work) :
    (w.write n c).write m c' = (w.write m c').write n c := by
  cases w with
  | bare => rfl
  | probe p =>
    simp only [write, Probe.write]
    split_ifs <;> simp_all
  | action a =>
    cases a
    all_goals
      simp only [write, Action.write, Keyboard.write, Waiting.write, Windowing.write,
        FileTransfer.write, Deletion.write, Renaming.write, FolderCreation.write,
        ExistenceCheck.write, Assignment.write, Branch.write, LoopEnd.write, Webhook.write]
    all_goals split_ifs <;> simp_all

/-- Writing back what a field held undoes a write to it. -/
theorem write_read {n : String} {w : Work} (h : w.read n ≠ .other) (c : Content) :
    (w.write n c).write n (w.read n) = w := by
  cases w with
  | bare => rfl
  | probe p =>
    simp only [write, Probe.write]
    split_ifs <;> simp_all [read, fields, Probe.fields, Value.fieldOr, Value.field?, List.lookup_cons]
  | action a =>
    cases a
    case window v =>
      -- Arguments that are not given are no list, and nothing is written there.
      rcases v with ⟨_, _, _ | arguments, _, _, _, _⟩
      all_goals
        simp only [write, Action.write, Windowing.write]
        split_ifs <;> simp_all [read, fields, Action.fields, Windowing.fields, textsValue,
          Value.fieldOr, Value.field?, List.lookup_cons]
    all_goals
      simp only [write, Action.write, Keyboard.write, Waiting.write, FileTransfer.write,
        Deletion.write, Renaming.write, FolderCreation.write, ExistenceCheck.write,
        Assignment.write, Branch.write, LoopEnd.write, Webhook.write]
    all_goals
      split_ifs <;> simp_all [read, fields, Action.fields, Keyboard.fields, Waiting.fields,
        FileTransfer.fields, Deletion.fields, Renaming.fields, FolderCreation.fields,
        ExistenceCheck.fields, Assignment.fields, Branch.fields, LoopEnd.fields, Webhook.fields,
        Value.fieldOr, Value.field?, List.lookup_cons]

/-- Writing keeps the tag. -/
@[simp]
theorem tag_write (n : String) (c : Content) (w : Work) : (w.write n c).tag = w.tag := by
  cases w with
  | bare => rfl
  | probe p => rfl
  | action a => cases a <;> rfl

/-- Writing keeps the references: no template field holds one. -/
@[simp]
theorem references_write (n : String) (c : Content) (w : Work) :
    (w.write n c).references = w.references := by
  cases w with
  | bare => rfl
  | probe p =>
    simp only [write, Probe.write]
    split_ifs <;> rfl
  | action a =>
    cases a
    case window v =>
      simp only [write, Action.write, Windowing.write]
      split_ifs <;> rfl
    case branch b =>
      simp only [write, Action.write, Branch.write]
      split_ifs <;> rfl
    case loopEnd l =>
      simp only [write, Action.write, LoopEnd.write]
      split_ifs <;> rfl
    all_goals rfl

/-- No field is expanded twice. -/
theorem nodup_templateFields (w : Work) : w.templateFields.Nodup := by
  cases w with
  | bare => simp [templateFields]
  | probe p => simp [templateFields]
  | action a => cases a <;> simp [templateFields, Action.templateFields]

/-- No two fields have the same name. -/
theorem nodup_fields (w : Work) : (w.fields.map Prod.fst).Nodup := by
  cases w with
  | bare => simp [fields]
  | probe p => simp [fields, Probe.fields]
  | action a =>
    cases a <;> simp [fields, Action.fields, MouseClick.fields, Keyboard.fields, Waiting.fields,
      Windowing.fields, FileTransfer.fields, Deletion.fields, Renaming.fields,
      FolderCreation.fields, ExistenceCheck.fields, Assignment.fields, Branch.fields,
      LoopStart.fields, LoopEnd.fields, Webhook.fields]

/-! ## Writing back -/

theorem restore_cons (n : String) (c : Content) (originals : List (String × Content)) (w : Work) :
    w.restore ((n, c) :: originals) = (w.write n c).restore originals := rfl

/-- A write to a field that is not among them comes before or after writing back the others. -/
theorem restore_write {n : String} {originals : List (String × Content)}
    (h : n ∉ originals.map Prod.fst) (c : Content) (w : Work) :
    (w.write n c).restore originals = (w.restore originals).write n c := by
  induction originals generalizing w with
  | nil => rfl
  | cons o originals ih =>
    obtain ⟨m, c'⟩ := o
    rw [List.map_cons, List.mem_cons, not_or] at h
    rw [restore_cons, restore_cons, write_comm h.1, ih h.2]

end Work

/-! ## What steers control -/

namespace Action

/-- The part of an action that steers control: a branch or the end of a loop without its texts. -/
def steering : Action → Option Action
  | .branch b => some (.branch { b with left := "", right := "" })
  | .loopEnd l => some (.loopEnd { l with left := "", right := "" })
  | _ => none

/-- Writing to a template field leaves the part of an action that steers control as it is. -/
theorem steering_write (n : String) (c : Content) (a : Action) :
    (a.write n c).steering = a.steering := by
  cases a
  case branch b =>
    simp only [write, Branch.write]
    split_ifs <;> rfl
  case loopEnd l =>
    simp only [write, LoopEnd.write]
    split_ifs <;> rfl
  all_goals rfl

/-- What steers control like the end of a loop is the end of a loop with other texts. -/
theorem eq_loopEnd_of_steering {a : Action} {l : LoopEnd}
    (h : a.steering = (Action.loopEnd l).steering) :
    ∃ left right, a = .loopEnd { l with left := left, right := right } := by
  cases a <;> simp only [steering, Option.some.injEq, reduceCtorEq] at h
  case loopEnd l' =>
    refine ⟨l'.left, l'.right, ?_⟩
    have hsame : { l' with left := "", right := "" } = { l with left := "", right := "" } :=
      Action.loopEnd.inj h
    cases l'
    cases l
    simp_all

/-- What steers control like a branch is a branch with other texts. -/
theorem eq_branch_of_steering {a : Action} {b : Branch}
    (h : a.steering = (Action.branch b).steering) :
    ∃ left right, a = .branch { b with left := left, right := right } := by
  cases a <;> simp only [steering, Option.some.injEq, reduceCtorEq] at h
  case branch b' =>
    refine ⟨b'.left, b'.right, ?_⟩
    have hsame : { b' with left := "", right := "" } = { b with left := "", right := "" } :=
      Action.branch.inj h
    cases b'
    cases b
    simp_all

end Action

end Deskwork
