/-
# Steps as Data and Back

What a script becomes as data is read back as the same script (`Script.ofValue_toValue`): every
conversion leaves its own output alone, each word of an enumeration is read back as its member, and
each kind of step finds its fields under the names under which it wrote them.
-/
import Deskwork.Proofs.Script.Forms

namespace Deskwork

open Deskwork.Text

/-! ## Conversions -/

namespace Convert

/-- A text is read back as itself. -/
@[simp]
theorem text_text (s : String) : text (.text s) = .ok s := rfl

/-- A truth value is read back as itself. -/
@[simp]
theorem bool_bool (b : Bool) : bool (.bool b) = .ok b := rfl

/-- A list of texts, or its absence, is read back as itself. -/
@[simp]
theorem listOf_textsValue (ts : Option (List String)) :
    listOf text (textsValue ts) = .ok ts := by
  cases ts with
  | none => rfl
  | some ts =>
    have items : itemsOf (.list (ts.map Value.text)) = .ok (ts.map Value.text) := by
      cases ts <;> rfl
    have own : (ts.map Value.text).map Value.asField = ts := by
      simp [List.map_map, Function.comp_def, Value.asField, Value.asText, Scalar.asText]
    simp only [textsValue, listOf, items, Demand.mapM_text, own, bind, Except.bind]

end Convert

/-! ## Enumerations -/

@[simp]
theorem ClickType.choice_word (c : ClickType) : Convert.choice choice (.text c.word) = .ok c := by
  cases c <;> rfl

@[simp]
theorem KeyboardMode.choice_word (m : KeyboardMode) :
    Convert.choice choice (.text m.word) = .ok m := by
  cases m <;> rfl

@[simp]
theorem WaitMode.choice_word (m : WaitMode) : Convert.choice choice (.text m.word) = .ok m := by
  cases m <;> rfl

@[simp]
theorem WindowVerb.choice_word (v : WindowVerb) : Convert.choice choice (.text v.word) = .ok v := by
  cases v <;> rfl

@[simp]
theorem WindowReference.choice_word (r : WindowReference) :
    Convert.choice choice (.text r.word) = .ok r := by
  cases r <;> rfl

@[simp]
theorem VariableVerb.choice_word (v : VariableVerb) :
    Convert.choice choice (.text v.word) = .ok v := by
  cases v <;> rfl

@[simp]
theorem Condition.choice_word (c : Condition) : Convert.choice choice (.text c.word) = .ok c := by
  cases c <;> rfl

@[simp]
theorem Consequence.choice_word (c : Consequence) :
    Convert.choice choice (.text c.word) = .ok c := by
  cases c <;> rfl

@[simp]
theorem LoopEnding.choice_word (e : LoopEnding) : Convert.choice choice (.text e.word) = .ok e := by
  cases e <;> rfl

@[simp]
theorem EntryKind.choice_word (k : EntryKind) : Convert.choice choice (.text k.word) = .ok k := by
  cases k <;> rfl

@[simp]
theorem Service.choice_word (s : Service) : Convert.choice choice (.text s.word) = .ok s := by
  cases s <;> rfl

/-! ## Kinds -/

/-- The fields of the data of a step: those that every step has, and those of its kind. -/
def framed (enabled continueOnError : Bool) (fs : Fields) : Fields :=
  ("enabled", .bool enabled) :: ("continue_on_error", .bool continueOnError) :: fs

section Kinds

attribute [local simp] framed Convert.field Value.field? List.lookup_cons bind Except.bind pure Except.pure

variable (enabled continueOnError : Bool)

/-- A mouse click is read back from its fields. -/
theorem MouseClick.ofFields_fields (m : MouseClick) :
    ofFields (framed enabled continueOnError m.fields) = .ok m := by
  simp [ofFields, fields]

/-- Keyboard input is read back from its fields. -/
theorem Keyboard.ofFields_fields (k : Keyboard) :
    ofFields (framed enabled continueOnError k.fields) = .ok k := by
  simp [ofFields, fields]

/-- A pause is read back from its fields. -/
theorem Waiting.ofFields_fields (w : Waiting) :
    ofFields (framed enabled continueOnError w.fields) = .ok w := by
  simp [ofFields, fields]

/-- A step about windows is read back from its fields. -/
theorem Windowing.ofFields_fields (w : Windowing) :
    ofFields (framed enabled continueOnError w.fields) = .ok w := by
  simp [ofFields, fields]

/-- An assignment is read back from its fields. -/
theorem Assignment.ofFields_fields (a : Assignment) :
    ofFields (framed enabled continueOnError a.fields) = .ok a := by
  simp [ofFields, fields]

/-- A branch is read back from its fields. -/
theorem Branch.ofFields_fields (b : Branch) :
    ofFields (framed enabled continueOnError b.fields) = .ok b := by
  simp [ofFields, fields]

/-- The start of a loop is read back from its fields. -/
theorem LoopStart.ofFields_fields (l : LoopStart) :
    ofFields (framed enabled continueOnError l.fields) = .ok l := by
  simp [ofFields, fields]

/-- The end of a loop is read back from its fields. -/
theorem LoopEnd.ofFields_fields (l : LoopEnd) :
    ofFields (framed enabled continueOnError l.fields) = .ok l := by
  simp [ofFields, fields]

/-- A transfer of a file is read back from its fields. -/
theorem FileTransfer.ofFields_fields (f : FileTransfer) :
    ofFields (framed enabled continueOnError f.fields) = .ok f := by
  simp [ofFields, fields]

/-- A deletion is read back from its fields. -/
theorem Deletion.ofFields_fields (d : Deletion) :
    ofFields (framed enabled continueOnError d.fields) = .ok d := by
  simp [ofFields, fields]

/-- A renaming is read back from its fields. -/
theorem Renaming.ofFields_fields (r : Renaming) :
    ofFields (framed enabled continueOnError r.fields) = .ok r := by
  simp [ofFields, fields]

/-- A step that makes a folder is read back from its fields. -/
theorem FolderCreation.ofFields_fields (f : FolderCreation) :
    ofFields (framed enabled continueOnError f.fields) = .ok f := by
  simp [ofFields, fields]

/-- A question whether something exists is read back from its fields. -/
theorem ExistenceCheck.ofFields_fields (e : ExistenceCheck) :
    ofFields (framed enabled continueOnError e.fields) = .ok e := by
  simp [ofFields, fields]

/-- A message is read back from its fields. -/
theorem Webhook.ofFields_fields (w : Webhook) :
    ofFields (framed enabled continueOnError w.fields) = .ok w := by
  simp [ofFields, fields]

/-- Every action is read back by the reader of its tag. -/
theorem Action.exists_reader (a : Action) :
    ∃ reader, readers.lookup a.tag = some reader
      ∧ reader (framed enabled continueOnError a.fields) = .ok a := by
  have made {α : Type} {make : α → Action} {r : Except Fault α} {x : α} (h : r = .ok x) :
      (make <$> r) = .ok (make x) := by
    rw [h]
    rfl
  cases a with
  | mouseClick m => exact ⟨_, rfl, made (m.ofFields_fields _ _)⟩
  | keyboard k => exact ⟨_, rfl, made (k.ofFields_fields _ _)⟩
  | wait w => exact ⟨_, rfl, made (w.ofFields_fields _ _)⟩
  | window w => exact ⟨_, rfl, made (w.ofFields_fields _ _)⟩
  | copyFile f => exact ⟨_, rfl, made (f.ofFields_fields _ _)⟩
  | moveFile f => exact ⟨_, rfl, made (f.ofFields_fields _ _)⟩
  | delete d => exact ⟨_, rfl, made (d.ofFields_fields _ _)⟩
  | rename r => exact ⟨_, rfl, made (r.ofFields_fields _ _)⟩
  | makeFolder f => exact ⟨_, rfl, made (f.ofFields_fields _ _)⟩
  | fileExists e => exact ⟨_, rfl, made (e.ofFields_fields _ _)⟩
  | assign a => exact ⟨_, rfl, made (a.ofFields_fields _ _)⟩
  | branch b => exact ⟨_, rfl, made (b.ofFields_fields _ _)⟩
  | loopStart l => exact ⟨_, rfl, made (l.ofFields_fields _ _)⟩
  | loopEnd l => exact ⟨_, rfl, made (l.ofFields_fields _ _)⟩
  | webhook w => exact ⟨_, rfl, made (w.ofFields_fields _ _)⟩

end Kinds

/-! ## Steps -/

/-- The tag of an action has no blanks around it and is in lower case. -/
theorem Action.lower_trim_tag (a : Action) : lower (trim a.tag) = a.tag := by
  have plain : ∀ tag ∈ readers.map Prod.fst, lower (trim tag) = tag := by decide +kernel
  refine plain a.tag ?_
  cases a <;> simp [readers, tag]

namespace Step

/-- A step as data, with its kind and its fields. -/
theorem toValue_eq (s : Step) :
    s.toValue = .object [("type", .text s.action.tag),
      ("data", .object (framed s.enabled s.continueOnError s.action.fields))] := rfl

/-- A step is read back from its data. -/
theorem ofFields_toValue (s : Step) :
    ofFields [("type", .text s.action.tag),
      ("data", .object (framed s.enabled s.continueOnError s.action.fields))] = .ok s := by
  obtain ⟨enabled, continueOnError, action⟩ := s
  obtain ⟨reader, known, read⟩ := action.exists_reader enabled continueOnError
  have tag (data : Value) : tagOf [("type", .text action.tag), ("data", data)] = action.tag :=
    action.lower_trim_tag
  have payload : payloadOf action.tag [("type", .text action.tag),
      ("data", .object (framed enabled continueOnError action.fields))]
        = .ok (framed enabled continueOnError action.fields) := rfl
  have first : Convert.field (framed enabled continueOnError action.fields) "enabled" Convert.bool
      true = .ok enabled := rfl
  have second : Convert.field (framed enabled continueOnError action.fields) "continue_on_error"
      Convert.bool false = .ok continueOnError := rfl
  simp only [ofFields, tag, known, payload, first, second, read, bind, Except.bind, pure,
    Except.pure]

end Step

/-! ## Scripts -/

namespace Script

/-- The step of an entry is read back. -/
theorem readStep_toValue (index : Nat) (s : Step) : readStep index s.toValue = .ok s := by
  rw [s.toValue_eq, readStep, s.ofFields_toValue]
  rfl

/-- The steps of a list are read back. -/
theorem readSteps_toValue (index : Nat) (steps : List Step) :
    readSteps index (steps.map Step.toValue) = .ok steps := by
  induction steps generalizing index with
  | nil => rfl
  | cons s steps ih =>
    simp only [List.map_cons, readSteps, readStep_toValue, ih, bind, Except.bind, pure, Except.pure]

/-- A script is read back from its data. -/
theorem ofValue_toValue (s : Script) : ofValue s.toValue = .ok s := by
  obtain ⟨name, steps⟩ := s
  cases steps with
  | nil => rfl
  | cons s steps =>
    have read := readSteps_toValue 1 (s :: steps)
    simp only [List.map_cons] at read
    have found : ofValue (toValue ⟨name, s :: steps⟩)
        = (readSteps 1 (s.toValue :: steps.map Step.toValue)).map (Script.mk name) := rfl
    rw [found, read]
    rfl

end Script

end Deskwork
