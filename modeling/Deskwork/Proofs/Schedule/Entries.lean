/-
# What a Task Demands

What an entry of a file of tasks demands of its fields, in the order in which they are read, and how
the entry answers (`Task.ofFields_answers`). The demands differ from those of steps: a weekday is
known by its name, times and moments are written as texts, and the minutes between two runs may be
absent but not empty.
-/
import Deskwork.Proofs.Script.Forms
import Deskwork.Proofs.Time.Texts
import Deskwork.Schedule.Store

namespace Deskwork

open Deskwork.Text Deskwork.Number Deskwork.Time

/-- A fault for which an entry of a file of tasks is refused: a name that nobody has, a wrong type or a
wrong value. -/
def Fault.isEntry (f : Fault) : Bool :=
  f.isKey || f.isType || f.isValue

/-- A misfit is such a fault. -/
theorem Suits.entry {α : Type} {r : Except Fault α} {q : Response} (h : Suits r q) :
    AnswersBy Fault.isEntry r q := by
  apply h.mono
  intro f misfit
  rw [Fault.isEntry, Bool.or_assoc]
  exact Bool.or_eq_true_iff.mpr (.inr misfit)

/-! ## Demands without bounds -/

/-- The answer to a demand that an infinity does not meet in a way of its own. -/
def Response.met (b : Bool) : Response := if b then .meets else .unfit

/-- What is read from a text answers by whether it can be read. -/
theorem AnswersBy.mapError {refusal : Fault → Bool} {α ε : Type} {r : Except ε α} {g : ε → Fault}
    (refused : ∀ f, r = .error f → refusal (g f)) :
    AnswersBy refusal (r.mapError g) (.met r.isOk) := by
  cases r with
  | ok a => exact .meets a
  | error f => exact .unfit (refused f rfl)

namespace Schedule.Task

/-! ## The answers of the fields -/

section Fields

variable (fields : Fields)

/-- The answer of the weekdays: what is no list counts as absent, and the items of a list are the names
of weekdays. -/
def daysResponse : Response :=
  match Value.field? fields "days_of_week" with
  | some (.list items) => .met (items.all fun v => (Weekday.ofName? (upper v.asText)).isSome)
  | _ => .meets

/-- The answer of a text to the demand for one of some words; a missing field has the given one. -/
def wordResponse (name other : String) (choices : List String) : Response :=
  (Demand.oneOf choices).response (.text (textField fields name other))

/-- The answer of the time of day. -/
def timeResponse : Response :=
  .met (readTime (textField fields "execution_time" "00:00:00")).isOk

/-- The answer of a value to the demand for a whole number that does not take what is empty for
zero. -/
def wholeResponse : Value → Response
  | .scalar (.bool _) | .scalar (.int _) => .meets
  | .scalar (.float x) => Demand.ofExact (exactValue x)
  | .scalar (.text s) => .met (readInt s).isOk
  | _ => .unfit

/-- The answer of the minutes between two runs, which may be absent. -/
def intervalResponse : Response :=
  match Value.field? fields "interval_minutes" with
  | none | some (.scalar .null) => .meets
  | some v => wholeResponse v

/-- The answer of the moment at which the task was made: what is empty counts as absent, and everything
else is a text that writes a moment. -/
def createdResponse : Response :=
  match Settings.filled? fields "created_at" with
  | none => .meets
  | some (.scalar (.text s)) => .met (readMoment s).isOk
  | some _ => .unfit

/-- The answer of an entry to what is demanded of a task: that of the first field that does not meet its
demand. -/
def response : Response :=
  .first [daysResponse fields,
    wordResponse fields "schedule_type" "daily" (Rhythm.choice.members.map Rhythm.word),
    timeResponse fields, intervalResponse fields, createdResponse fields,
    wordResponse fields "notify_policy" "on_error" (Policy.choice.members.map Policy.word),
    fieldResponse fields ("notify_interval_minutes", .whole)]

/-! ## The readers of the fields -/

/-- The names of weekdays are read one after the other. -/
theorem mapM_readDay_answers (items : List Value) :
    AnswersBy Fault.isEntry (items.mapM readDay)
      (.met (items.all fun v => (Weekday.ofName? (upper v.asText)).isSome)) := by
  induction items with
  | nil => exact .meets []
  | cons v items ih =>
    rw [List.mapM_cons, List.all_cons]
    unfold readDay
    dsimp only
    cases Weekday.ofName? (upper v.asText) with
    | none => exact .unfit rfl
    | some d =>
      have rest := ih.map (d :: ·)
      exact rest

theorem readDays_answers : AnswersBy Fault.isEntry (readDays fields) (daysResponse fields) := by
  unfold readDays daysResponse
  cases Value.field? fields "days_of_week" with
  | none => exact .meets none
  | some v =>
    cases v with
    | list items => exact (mapM_readDay_answers items).map some
    | scalar s => exact .meets none
    | object fs => exact .meets none

theorem word_answers {α : Type} {c : Choice α} {word : α → String}
    (key : ∀ a, c.key a = .text (word a)) (name other : String) :
    AnswersBy Fault.isEntry (Convert.choice c (.text (textField fields name other)))
      (wordResponse fields name other (c.members.map word)) :=
  (Demand.choice_answers key _).entry

theorem time_answers :
    AnswersBy Fault.isEntry
      ((readTime (textField fields "execution_time" "00:00:00")).mapError Fault.time)
      (timeResponse fields) := by
  apply AnswersBy.mapError
  intro f failed
  have value := Fault.isValue_of_isWrongValue (isWrongValue_of_readTime failed)
  simp [Fault.isEntry, value]

/-- The answer of a value to the demand for a whole number. -/
theorem wholeOf_answers (v : Value) :
    AnswersBy Fault.isEntry (Convert.wholeOf v) (wholeResponse v) := by
  match v with
  | .scalar (.float x) =>
    have read : Convert.wholeOf (.float x) = (truncate? x).mapError .conversion := rfl
    have answer : wholeResponse (.float x) = Demand.ofExact (exactValue x) := rfl
    rw [read, answer, truncate?]
    cases exactValue x with
    | nan => exact .unfit rfl
    | infinite negative => exact .boundless
    | finite d => exact .meets _
  | .scalar (.text s) => exact AnswersBy.mapError fun f _ => rfl
  | .scalar .null | .list items | .object fs => exact .unfit rfl
  | .scalar (.bool b) => exact .meets _
  | .scalar (.int n) => exact .meets n

theorem interval_answers :
    AnswersBy Fault.isEntry (readInterval fields) (intervalResponse fields) := by
  unfold readInterval intervalResponse
  cases Value.field? fields "interval_minutes" with
  | none => exact .meets none
  | some v =>
    match v with
    | .scalar .null => exact .meets none
    | .scalar (.bool _) | .scalar (.int _) | .scalar (.float _) | .scalar (.text _) | .list _
    | .object _ => exact (wholeOf_answers _).map some

theorem created_answers (now : Moment) :
    AnswersBy Fault.isEntry (readCreated fields now) (createdResponse fields) := by
  unfold readCreated createdResponse
  cases Settings.filled? fields "created_at" with
  | none => exact .meets now
  | some v =>
    match v with
    | .scalar (.text s) =>
      apply AnswersBy.mapError
      intro f failed
      have value := Fault.isValue_of_isWrongValue (isWrongValue_of_readMoment failed)
      simp [Fault.isEntry, value]
    | .scalar .null | .scalar (.bool _) | .scalar (.int _) | .scalar (.float _) | .list _
    | .object _ => exact .unfit rfl

theorem notifyInterval_answers (other : Int) :
    AnswersBy Fault.isEntry (Convert.field fields "notify_interval_minutes" Convert.int other)
      (fieldResponse fields ("notify_interval_minutes", .whole)) := by
  unfold Convert.field fieldResponse
  cases Value.field? fields "notify_interval_minutes" with
  | none => exact .meets other
  | some v => exact (Demand.int_answers v).entry

/-- The fields after the weekdays are read in order. -/
theorem readRest_answers (days : Option (List Weekday)) (id : String) (now : Moment) :
    AnswersBy Fault.isEntry (readRest fields days id now)
      (.first [wordResponse fields "schedule_type" "daily" (Rhythm.choice.members.map Rhythm.word),
        timeResponse fields, intervalResponse fields, createdResponse fields,
        wordResponse fields "notify_policy" "on_error" (Policy.choice.members.map Policy.word),
        fieldResponse fields ("notify_interval_minutes", .whole)]) := by
  apply (word_answers fields (c := Rhythm.choice) (fun _ => rfl) _ _).bind
  intro rhythm
  apply (time_answers fields).bind
  intro time
  apply (interval_answers fields).bind
  intro interval
  apply (created_answers fields now).bind
  intro created
  apply (word_answers fields (c := Policy.choice) (fun _ => rfl) _ _).bind
  intro policy
  apply (notifyInterval_answers fields _).bind
  intro notifyInterval
  exact .meets _

/-! ## Entries -/

/-- The weekdays are read before the others. -/
theorem ofFields_fst (m : Machine) :
    (ofFields fields m).1
      = readDays fields >>= fun days =>
          readRest fields days (readId fields m).1 (readId fields m).2.wall := by
  unfold ofFields
  cases readDays fields <;> rfl

/-- An entry is read as a task exactly when its fields answer what is demanded. -/
theorem ofFields_answers (m : Machine) :
    AnswersBy Fault.isEntry (ofFields fields m).1 (response fields) := by
  rw [ofFields_fst]
  apply (readDays_answers fields).bind
  intro days
  exact readRest_answers fields days _ _

end Fields

end Schedule.Task

end Deskwork
