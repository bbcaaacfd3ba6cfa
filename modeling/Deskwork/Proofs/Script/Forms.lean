/-
# The Fields of Each Kind of Step

The demands that the steps of each kind make on the fields of their data, in the order in which the
fields are read (`Action.demands`), checked against the readers of all kinds. A step is read exactly
when its kind is known, its data is an object and the fields meet their demands
(`Step.ofFields_answers`), and what is read has the kind of its tag (`Step.tag_of_ofFields`).
-/
import Deskwork.Proofs.Script.Demands

namespace Deskwork

/-! ## Fields in order -/

/-- Fields of an object. -/
abbrev Fields := List (String × Value)

/-- Demands on fields, in order. -/
abbrev Demands := List (String × Demand)

/-- The answer of an object to the demand on one of its fields: a missing field has a value that
stands for it. -/
def fieldResponse (fs : Fields) (d : String × Demand) : Response :=
  match Value.field? fs d.1 with
  | some v => d.2.response v
  | none => .meets

/-- The answer of an object to the demands on its fields, one after the other. -/
def survey (fs : Fields) (ds : Demands) : Response :=
  .first (ds.map (fieldResponse fs))

namespace Survey

variable {α β : Type} {fs : Fields} {name : String} {ds : Demands}

/-- No fields are left. -/
theorem done (a : α) : Answers (pure a) (survey fs []) := .meets a

/-- A field that is read, and then the others. -/
theorem field {d : Demand} {r : Convert.Reader α} {other : α} {k : α → Except Fault β}
    (reads : ∀ v, Suits (r v) (d.response v)) (rest : ∀ a, Answers (k a) (survey fs ds)) :
    Answers (Convert.field fs name r other >>= k) (survey fs ((name, d) :: ds)) := by
  refine AnswersBy.bind (q := fieldResponse fs (name, d)) ?_ rest
  unfold Convert.field fieldResponse
  cases Value.field? fs name with
  | none => exact .meets other
  | some v => exact (reads v).answers

/-- A field for a text. -/
theorem words {other : String} {k : String → Except Fault β}
    (rest : ∀ a, Answers (k a) (survey fs ds)) :
    Answers (Convert.field fs name Convert.text other >>= k) (survey fs ((name, .words) :: ds)) :=
  field Demand.text_answers rest

/-- A field for a truth value. -/
theorem truth {other : Bool} {k : Bool → Except Fault β}
    (rest : ∀ a, Answers (k a) (survey fs ds)) :
    Answers (Convert.field fs name Convert.bool other >>= k) (survey fs ((name, .truth) :: ds)) :=
  field Demand.bool_answers rest

/-- A field for a whole number. -/
theorem whole {other : Int} {k : Int → Except Fault β}
    (rest : ∀ a, Answers (k a) (survey fs ds)) :
    Answers (Convert.field fs name Convert.int other >>= k) (survey fs ((name, .whole) :: ds)) :=
  field Demand.int_answers rest

/-- A field for a list of texts. -/
theorem texts {other : Option (List String)} {k : Option (List String) → Except Fault β}
    (rest : ∀ a, Answers (k a) (survey fs ds)) :
    Answers (Convert.field fs name (Convert.listOf Convert.text) other >>= k)
      (survey fs ((name, .texts) :: ds)) :=
  field Demand.texts_answers rest

/-- A field for one of the words of an enumeration. -/
theorem oneOf {c : Choice α} {word : α → String} (key : ∀ a, c.key a = .text (word a)) {other : α}
    {k : α → Except Fault β} (rest : ∀ a, Answers (k a) (survey fs ds)) :
    Answers (Convert.field fs name (Convert.choice c) other >>= k)
      (survey fs ((name, .oneOf (c.members.map word)) :: ds)) :=
  field (Demand.choice_answers key) rest

end Survey

/-! ## Kinds -/

open Survey

/-- The demands of a mouse click. -/
def MouseClick.demands : Demands :=
  [("x", .whole), ("y", .whole),
    ("click_type", .oneOf (ClickType.choice.members.map ClickType.word)),
    ("delay_after_ms", .whole)]

/-- The fields of a mouse click answer its demands. -/
theorem MouseClick.ofFields_answers (fs : Fields) :
    Answers (ofFields fs) (survey fs demands) :=
  whole fun _ => whole fun _ => oneOf (fun _ => rfl) fun _ => whole fun _ => done _

/-- The demands of keyboard input. -/
def Keyboard.demands : Demands :=
  [("action_type", .oneOf (KeyboardMode.choice.members.map KeyboardMode.word)), ("text", .words),
    ("key", .words), ("modifiers", .texts), ("delay_between_keys_ms", .whole)]

/-- The fields of keyboard input answer its demands. -/
theorem Keyboard.ofFields_answers (fs : Fields) :
    Answers (ofFields fs) (survey fs demands) :=
  oneOf (fun _ => rfl) fun _ => words fun _ => words fun _ => texts fun _ => whole fun _ => done _

/-- The demands of a pause. -/
def Waiting.demands : Demands :=
  [("wait_type", .oneOf (WaitMode.choice.members.map WaitMode.word)), ("milliseconds", .whole),
    ("window_title", .words), ("timeout_seconds", .whole)]

/-- The fields of a pause answer its demands. -/
theorem Waiting.ofFields_answers (fs : Fields) :
    Answers (ofFields fs) (survey fs demands) :=
  oneOf (fun _ => rfl) fun _ => whole fun _ => words fun _ => whole fun _ => done _

/-- The demands of a step about windows. -/
def Windowing.demands : Demands :=
  [("action_type", .oneOf (WindowVerb.choice.members.map WindowVerb.word)),
    ("executable_path", .words), ("arguments", .texts),
    ("reference_type", .oneOf (WindowReference.choice.members.map WindowReference.word)),
    ("window_title", .words), ("launch_action_position", .whole), ("wait_after_launch_ms", .whole)]

/-- The fields of a step about windows answer its demands. -/
theorem Windowing.ofFields_answers (fs : Fields) :
    Answers (ofFields fs) (survey fs demands) :=
  oneOf (fun _ => rfl) fun _ => words fun _ => texts fun _ => oneOf (fun _ => rfl) fun _ =>
    words fun _ => whole fun _ => whole fun _ => done _

/-- The demands of an assignment. -/
def Assignment.demands : Demands :=
  [("variable_name", .words), ("value", .words),
    ("operation", .oneOf (VariableVerb.choice.members.map VariableVerb.word))]

/-- The fields of an assignment answer its demands. -/
theorem Assignment.ofFields_answers (fs : Fields) :
    Answers (ofFields fs) (survey fs demands) :=
  words fun _ => words fun _ => oneOf (fun _ => rfl) fun _ => done _

/-- The demands of a branch. -/
def Branch.demands : Demands :=
  [("left_value", .words), ("right_value", .words),
    ("condition_type", .oneOf (Condition.choice.members.map Condition.word)),
    ("then_action", .oneOf (Consequence.choice.members.map Consequence.word)),
    ("jump_to_position", .whole)]

/-- The fields of a branch answer its demands. -/
theorem Branch.ofFields_answers (fs : Fields) :
    Answers (ofFields fs) (survey fs demands) :=
  words fun _ => words fun _ => oneOf (fun _ => rfl) fun _ => oneOf (fun _ => rfl) fun _ =>
    whole fun _ => done _

/-- The demands of the start of a loop. -/
def LoopStart.demands : Demands :=
  [("comment", .words)]

/-- The fields of the start of a loop answer its demands. -/
theorem LoopStart.ofFields_answers (fs : Fields) :
    Answers (ofFields fs) (survey fs demands) :=
  words fun _ => done _

/-- The demands of the end of a loop. -/
def LoopEnd.demands : Demands :=
  [("loop_start_position", .whole),
    ("end_condition_type", .oneOf (LoopEnding.choice.members.map LoopEnding.word)),
    ("left_value", .words), ("right_value", .words), ("max_iterations", .whole)]

/-- The fields of the end of a loop answer its demands. -/
theorem LoopEnd.ofFields_answers (fs : Fields) :
    Answers (ofFields fs) (survey fs demands) :=
  whole fun _ => oneOf (fun _ => rfl) fun _ => words fun _ => words fun _ => whole fun _ => done _

/-- The demands of a transfer of a file. -/
def FileTransfer.demands : Demands :=
  [("source_path", .words), ("destination_path", .words), ("overwrite", .truth)]

/-- The fields of a transfer of a file answer its demands. -/
theorem FileTransfer.ofFields_answers (fs : Fields) :
    Answers (ofFields fs) (survey fs demands) :=
  words fun _ => words fun _ => truth fun _ => done _

/-- The demands of a deletion. -/
def Deletion.demands : Demands :=
  [("target_path", .words), ("target_type", .oneOf (EntryKind.choice.members.map EntryKind.word)),
    ("recursive", .truth)]

/-- The fields of a deletion answer its demands. -/
theorem Deletion.ofFields_answers (fs : Fields) :
    Answers (ofFields fs) (survey fs demands) :=
  words fun _ => oneOf (fun _ => rfl) fun _ => truth fun _ => done _

/-- The demands of a renaming. -/
def Renaming.demands : Demands :=
  [("source_path", .words), ("new_name", .words), ("overwrite", .truth)]

/-- The fields of a renaming answer its demands. -/
theorem Renaming.ofFields_answers (fs : Fields) :
    Answers (ofFields fs) (survey fs demands) :=
  words fun _ => words fun _ => truth fun _ => done _

/-- The demands of a step that makes a folder. -/
def FolderCreation.demands : Demands :=
  [("folder_path", .words)]

/-- The fields of a step that makes a folder answer its demands. -/
theorem FolderCreation.ofFields_answers (fs : Fields) :
    Answers (ofFields fs) (survey fs demands) :=
  words fun _ => done _

/-- The demands of a question whether something exists. -/
def ExistenceCheck.demands : Demands :=
  [("target_path", .words), ("target_type", .oneOf (EntryKind.choice.members.map EntryKind.word)),
    ("fail_if_not_exists", .truth), ("result_variable", .words)]

/-- The fields of a question whether something exists answer its demands. -/
theorem ExistenceCheck.ofFields_answers (fs : Fields) :
    Answers (ofFields fs) (survey fs demands) :=
  words fun _ => oneOf (fun _ => rfl) fun _ => truth fun _ => words fun _ => done _

/-- The demands of a message. -/
def Webhook.demands : Demands :=
  [("webhook_url", .words), ("service_type", .oneOf (Service.choice.members.map Service.word)),
    ("message", .words), ("custom_payload", .words), ("timeout_ms", .whole)]

/-- The fields of a message answer its demands. -/
theorem Webhook.ofFields_answers (fs : Fields) :
    Answers (ofFields fs) (survey fs demands) :=
  words fun _ => oneOf (fun _ => rfl) fun _ => words fun _ => words fun _ => whole fun _ => done _

/-! ## All kinds -/

namespace Action

/-- The demands of each kind of step on the fields of its data. -/
def demands : List (String × Demands) :=
  [("mouse_click", MouseClick.demands), ("keyboard", Keyboard.demands), ("wait", Waiting.demands),
    ("window", Windowing.demands), ("variable_set", Assignment.demands), ("if", Branch.demands),
    (LoopEnd.startTag, LoopStart.demands), ("loop_end", LoopEnd.demands),
    ("file_copy", FileTransfer.demands), ("file_move", FileTransfer.demands),
    ("file_delete", Deletion.demands), ("file_rename", Renaming.demands),
    ("folder_create", FolderCreation.demands), ("file_exists", ExistenceCheck.demands),
    ("webhook", Webhook.demands)]

/-- The demands of a kind of step describe its reader, and what is read has its tag. -/
structure Describes (d : String × Demands) (r : String × (Fields → Except Fault Action)) : Prop where
  /-- Both are of one kind. -/
  tag : d.1 = r.1
  /-- The fields answer the demands. -/
  answers : ∀ fs, Answers (r.2 fs) (survey fs d.2)
  /-- What is read is of the kind. -/
  kept : ∀ fs a, r.2 fs = .ok a → a.tag = r.1

/-- What is made of the fields is of the kind that it is made into. -/
theorem Describes.of {α : Type} {tag : String} {ds : Demands} {read : Fields → Except Fault α}
    {make : α → Action} (tagged : ∀ a, (make a).tag = tag)
    (answers : ∀ fs, Answers (read fs) (survey fs ds)) :
    Describes (tag, ds) (tag, fun fs => make <$> read fs) where
  tag := rfl
  answers fs := (answers fs).map make
  kept fs a h := by
    obtain ⟨m, _, rfl⟩ := map_eq_ok_iff.mp h
    exact tagged m

/-- The demands of every kind describe its reader. -/
theorem demands_describe : List.Forall₂ Describes demands readers := by
  unfold demands readers
  refine .cons (.of (fun _ => rfl) MouseClick.ofFields_answers) ?_
  refine .cons (.of (fun _ => rfl) Keyboard.ofFields_answers) ?_
  refine .cons (.of (fun _ => rfl) Waiting.ofFields_answers) ?_
  refine .cons (.of (fun _ => rfl) Windowing.ofFields_answers) ?_
  refine .cons (.of (fun _ => rfl) Assignment.ofFields_answers) ?_
  refine .cons (.of (fun _ => rfl) Branch.ofFields_answers) ?_
  refine .cons (.of (fun _ => rfl) LoopStart.ofFields_answers) ?_
  refine .cons (.of (fun _ => rfl) LoopEnd.ofFields_answers) ?_
  refine .cons (.of (fun _ => rfl) FileTransfer.ofFields_answers) ?_
  refine .cons (.of (fun _ => rfl) FileTransfer.ofFields_answers) ?_
  refine .cons (.of (fun _ => rfl) Deletion.ofFields_answers) ?_
  refine .cons (.of (fun _ => rfl) Renaming.ofFields_answers) ?_
  refine .cons (.of (fun _ => rfl) FolderCreation.ofFields_answers) ?_
  refine .cons (.of (fun _ => rfl) ExistenceCheck.ofFields_answers) ?_
  refine .cons (.of (fun _ => rfl) Webhook.ofFields_answers) ?_
  exact .nil

/-- A tag is known to both tables, and then the demands describe the reader, or to neither. -/
theorem lookup_describes {ds : List (String × Demands)}
    {rs : List (String × (Fields → Except Fault Action))} (h : List.Forall₂ Describes ds rs)
    (tag : String) :
    (ds.lookup tag = none ∧ rs.lookup tag = none)
      ∨ ∃ d r, ds.lookup tag = some d ∧ rs.lookup tag = some r ∧ Describes (tag, d) (tag, r) := by
  induction h with
  | nil => exact .inl ⟨rfl, rfl⟩
  | @cons d r ds rs first _ ih =>
    obtain ⟨name, d⟩ := d
    obtain ⟨name', r⟩ := r
    obtain rfl : name = name' := first.tag
    simp only [List.lookup_cons]
    cases same : tag == name with
    | false => exact ih
    | true =>
      obtain rfl : tag = name := by simpa using same
      exact .inr ⟨d, r, rfl, rfl, first⟩

end Action

/-! ## Steps -/

namespace Step

/-- The answer of an object to what is demanded of a step: its kind is known, its data is an object,
and the fields of the data meet the demands of the kind. -/
def response (fields : Fields) : Response :=
  match Action.demands.lookup (tagOf fields), payloadOf (tagOf fields) fields with
  | some ds, .ok fs => survey fs (("enabled", .truth) :: ("continue_on_error", .truth) :: ds)
  | _, _ => .unfit

/-- Data that is no object is refused. -/
theorem payloadOf_error {tag : String} {fields : Fields} {f : Fault}
    (h : payloadOf tag fields = .error f) : f.isExpected := by
  simp only [payloadOf] at h
  split at h
  · cases h
  · split at h <;> cases h
    rfl

/-- A step is read exactly when the object meets what is demanded of it. -/
theorem ofFields_answers (fields : Fields) : Answers (ofFields fields) (response fields) := by
  unfold ofFields response
  rcases Action.lookup_describes Action.demands_describe (tagOf fields) with
    ⟨unknown, unread⟩ | ⟨ds, reader, known, read, describes⟩
  · simp only [unknown, unread]
    exact .unfit rfl
  · simp only [known, read]
    cases payload : payloadOf (tagOf fields) fields with
    | error f => exact .unfit (payloadOf_error payload)
    | ok fs =>
      exact Survey.truth fun enabled => Survey.truth fun continueOnError =>
        (describes.answers fs).map (Step.mk enabled continueOnError)

/-- What is read has the kind of its tag. -/
theorem tag_of_ofFields {fields : Fields} {s : Step} (h : ofFields fields = .ok s) :
    s.action.tag = tagOf fields := by
  unfold ofFields at h
  rcases Action.lookup_describes Action.demands_describe (tagOf fields) with
    ⟨_, unread⟩ | ⟨_, reader, _, read, describes⟩
  · simp [unread] at h
  · simp only [read] at h
    obtain ⟨fs, _, h⟩ := bind_eq_ok_iff.mp h
    obtain ⟨enabled, _, h⟩ := bind_eq_ok_iff.mp h
    obtain ⟨continueOnError, _, h⟩ := bind_eq_ok_iff.mp h
    obtain ⟨action, made, h⟩ := bind_eq_ok_iff.mp h
    cases h
    exact describes.kept fs action made

end Step

end Deskwork
