/-
# What Fields Demand

What the fields of each kind of step demand of the values they are read from, and how a value of any
type answers a demand: it meets it, it is unfit, or it is boundless, an infinity where a whole number
must stand. The table of demands is checked against the readers of all kinds (`Step.ofFields_answers`):
a step is read exactly when every demand is met, and of the demands that are not met the first one
decides what goes wrong.
-/
import Deskwork.Proofs.Number.Exact
import Deskwork.Proofs.Results
import Deskwork.Script

namespace Deskwork

open Deskwork.Text Deskwork.Number

/-! ## Answers -/

/-- How a value answers a demand. -/
inductive Response where
  | meets
  | unfit
  /-- It is infinite where a whole number must stand. -/
  | boundless
  deriving DecidableEq, Repr

namespace Response

/-- The answer to several demands: that of the first one which is not met. -/
def first : List Response → Response
  | [] => .meets
  | .meets :: rest => first rest
  | r :: _ => r

end Response

/-- A fault that a step may have without anything else being wrong. -/
def Fault.isExpected (f : Fault) : Bool :=
  f.isAction || f.isType || f.isValue

/-- A fault of a value that has another type than a field asks for, or does not suit it. -/
def Fault.isMisfit (f : Fault) : Bool :=
  f.isType || f.isValue

/-- The result of reading something, according to how it answers what is demanded of it; the faults
of what is unfit are the given ones. -/
inductive AnswersBy (refusal : Fault → Bool) {α : Type} : Except Fault α → Response → Prop where
  /-- It is read. -/
  | meets (a : α) : AnswersBy refusal (.ok a) .meets
  /-- It is refused. -/
  | unfit {f : Fault} (expected : refusal f) : AnswersBy refusal (.error f) .unfit
  /-- It has no whole part. -/
  | boundless : AnswersBy refusal (.error (.conversion .infinite)) .boundless

namespace AnswersBy

variable {refusal wider : Fault → Bool} {α β : Type} {r : Except Fault α} {q : Response}

/-- What is unfit may be refused in more ways. -/
theorem mono (h : AnswersBy refusal r q) (implies : ∀ f, refusal f → wider f) :
    AnswersBy wider r q := by
  cases h with
  | meets a => exact .meets a
  | unfit expected => exact .unfit (implies _ expected)
  | boundless => exact .boundless

/-- What is made of the result does not change the answer. -/
theorem map (h : AnswersBy refusal r q) (g : α → β) : AnswersBy refusal (g <$> r) q := by
  cases h with
  | meets a => exact .meets (g a)
  | unfit expected => exact .unfit expected
  | boundless => exact .boundless

/-- One demand after the other: what follows is asked only when the first one is met. -/
theorem bind {k : α → Except Fault β} {qs : List Response} (h : AnswersBy refusal r q)
    (hk : ∀ a, AnswersBy refusal (k a) (Response.first qs)) :
    AnswersBy refusal (r >>= k) (Response.first (q :: qs)) := by
  cases h with
  | meets a => exact hk a
  | unfit expected => exact .unfit expected
  | boundless => exact .boundless

end AnswersBy

/-- The result of reading a step, according to how it answers what is demanded of it. -/
abbrev Answers {α : Type} (r : Except Fault α) (q : Response) : Prop :=
  AnswersBy Fault.isExpected r q

/-- The result of reading a field, according to how its value answers the demand. -/
abbrev Suits {α : Type} (r : Except Fault α) (q : Response) : Prop :=
  AnswersBy Fault.isMisfit r q

/-- A step may have the faults of its fields. -/
theorem Suits.answers {α : Type} {r : Except Fault α} {q : Response} (h : Suits r q) : Answers r q := by
  apply h.mono
  intro f misfit
  rw [Fault.isExpected, Bool.or_assoc]
  exact Bool.or_eq_true_iff.mpr (.inr misfit)

/-! ## Demands -/

/-- What a field demands of a value. -/
inductive Demand where
  | words
  | truth
  | whole
  /-- A list of texts, or nothing. -/
  | texts
  | oneOf (choices : List String)
  deriving DecidableEq, Repr

/-- A whole number is read as itself. -/
@[simp]
theorem Convert.int_int (n : Int) : int (.int n) = .ok n := by
  by_cases zero : n = 0 <;> simp [int, wholeOf, Value.isTrue, Scalar.isTrue, zero]

namespace Demand

/-- The answer of a floating-point number to the demand for a whole number. -/
def ofExact : Exact → Response
  | .nan => .unfit
  | .infinite _ => .boundless
  | .finite _ => .meets

/-- The answer of a value without parts to the demand for a whole number. -/
def wholeOf : Scalar → Response
  | .float x => ofExact (exactValue x)
  | .text s => if s.isEmpty || (readInt s).isOk then .meets else .unfit
  | _ => .meets

/-- The answer of a value to a demand, over all types of values. -/
def response : Demand → Value → Response
  | .words, _ => .meets
  | .truth, .scalar (.text s) =>
    if (Convert.trueWords ++ Convert.falseWords).contains (lower (trim s)) then .meets else .unfit
  | .truth, _ => .meets
  | .whole, .scalar s => wholeOf s
  | .whole, .list items => if items.isEmpty then .meets else .unfit
  | .whole, .object fields => if fields.isEmpty then .meets else .unfit
  | .texts, .scalar (.text _) => .meets
  | .texts, .scalar s => if s.isTrue then .unfit else .meets
  | .texts, _ => .meets
  | .oneOf choices, .scalar (.text s) => if choices.contains s then .meets else .unfit
  | .oneOf _, _ => .unfit

/-! ## Readers -/

/-- Every value has a text. -/
theorem text_answers (v : Value) : Suits (Convert.text v) (words.response v) :=
  .meets v.asField

/-- A word is a truth value when it is one of those for true or for false. -/
theorem word_answers (word : String) {f : Fault} (misfit : f.isMisfit) :
    Suits
      (if Convert.trueWords.contains word then .ok true
        else if Convert.falseWords.contains word then .ok false else .error f)
      (if (Convert.trueWords ++ Convert.falseWords).contains word then .meets else .unfit) := by
  rw [List.contains_append]
  cases Convert.trueWords.contains word with
  | true => exact .meets true
  | false =>
    cases Convert.falseWords.contains word with
    | true => exact .meets false
    | false => exact .unfit misfit

/-- A text is read as a truth value when it is one of the words. -/
theorem bool_answers (v : Value) : Suits (Convert.bool v) (truth.response v) := by
  match v with
  | .scalar (.text s) =>
    rw [Convert.bool, response]
    exact word_answers (lower (trim s)) rfl
  | .scalar .null | .scalar (.bool _) | .scalar (.int _) | .scalar (.float _) | .list _
  | .object _ => exact .meets _

/-- A floating-point number is read as its whole part, unless it has none. -/
theorem int_answers_float (x : Float) :
    Suits (Convert.int (.float x)) (ofExact (exactValue x)) := by
  by_cases zero : (x == 0.0) = true
  · obtain ⟨negative, exact⟩ := exactValue_of_beq_zero zero
    have read : Convert.int (.float x) = .ok 0 := by
      simp [Convert.int, Value.isTrue, Scalar.isTrue, bne, zero]
    rw [read, exact]
    exact .meets 0
  · have read : Convert.int (.float x) = (truncate? x).mapError .conversion := by
      simp [Convert.int, Convert.wholeOf, Value.isTrue, Scalar.isTrue, bne, zero]
    rw [read, truncate?]
    cases exactValue x with
    | nan => exact .unfit rfl
    | infinite negative => exact .boundless
    | finite d => exact .meets _

/-- A text is read as a whole number when it is empty or a numeral. -/
theorem int_answers_text (s : String) :
    Suits (Convert.int (.text s)) (wholeOf (.text s)) := by
  by_cases empty : s.isEmpty
  · have read : Convert.int (.text s) = .ok 0 := by
      simp [Convert.int, Value.isTrue, Scalar.isTrue, empty]
    rw [read, wholeOf, if_pos (by simp [empty])]
    exact .meets 0
  · have read : Convert.int (.text s) = (readInt s).mapError .numeral := by
      simp [Convert.int, Convert.wholeOf, Value.isTrue, Scalar.isTrue, empty]
    rw [read, wholeOf]
    cases readInt s with
    | ok n =>
      rw [if_pos (by simp [Except.isOk, Except.toBool])]
      exact .meets n
    | error f =>
      rw [if_neg (by simp [Except.isOk, Except.toBool, empty])]
      exact .unfit rfl

/-- What has parts is no whole number, unless it is empty. -/
theorem int_answers_parts {v : Value} {empty : Bool} (truth : v.isTrue = !empty)
    (unsuitable : Convert.wholeOf v = .error (.unsuitable (.notWhole v.typeName))) :
    Suits (Convert.int v) (if empty then .meets else .unfit) := by
  rw [Convert.int, truth, unsuitable]
  cases empty with
  | true => exact .meets 0
  | false => exact .unfit rfl

/-- The answer of a value to the demand for a whole number. -/
theorem int_answers (v : Value) : Suits (Convert.int v) (whole.response v) := by
  match v with
  | .scalar (.float x) => exact int_answers_float x
  | .scalar (.text s) => exact int_answers_text s
  | .scalar .null => exact .meets 0
  | .scalar (.bool b) => cases b <;> exact .meets _
  | .scalar (.int n) =>
    rw [Convert.int_int]
    exact .meets n
  | .list items => exact int_answers_parts rfl rfl
  | .object fields => exact int_answers_parts rfl rfl

/-- The items of any value are read as texts. -/
theorem mapM_text (items : List Value) :
    items.mapM Convert.text = .ok (items.map Value.asField) := by
  induction items with
  | nil => rfl
  | cons v items ih =>
    rw [List.mapM_cons, ih]
    rfl

/-- The answer of the items of a value decides, unless it is absent. -/
theorem listOf_answers {v : Value} {q : Response} (there : v ≠ .null)
    (h : Suits (Convert.itemsOf v) q) : Suits (Convert.listOf Convert.text v) q := by
  have read : Convert.listOf Convert.text v
      = Convert.itemsOf v >>= fun items => items.mapM Convert.text >>= fun ts => .ok (some ts) := by
    unfold Convert.listOf
    split
    · exact absurd rfl there
    · rfl
  have made : Convert.listOf Convert.text v
      = (fun items => some (items.map Value.asField)) <$> Convert.itemsOf v := by
    rw [read]
    simp only [mapM_text]
    cases Convert.itemsOf v <;> rfl
  exact made ▸ h.map _

/-- A value without parts has items when it is a text, and none when it is empty. -/
theorem itemsOf_answers (s : Scalar) (noText : ∀ t, s ≠ .text t) :
    Suits (Convert.itemsOf (.scalar s)) (if s.isTrue then .unfit else .meets) := by
  have read : Convert.itemsOf (.scalar s)
      = if s.isTrue then .error (.unsuitable (.noItems (Value.scalar s).typeName)) else .ok [] := by
    cases s with
    | text t => exact absurd rfl (noText t)
    | null | bool b | int n | float x =>
      simp only [Convert.itemsOf, Value.isTrue, Bool.not_eq_true']
      split <;> simp_all
  rw [read]
  cases s.isTrue with
  | false => exact .meets []
  | true => exact .unfit rfl

/-- A value has items when it is a list, a text or an object, and none when it is empty. -/
theorem texts_answers (v : Value) : Suits (Convert.listOf Convert.text v) (texts.response v) := by
  match v with
  | .scalar .null => exact .meets none
  | .list items =>
    refine listOf_answers (by simp) ?_
    cases items <;> exact .meets _
  | .object fields =>
    refine listOf_answers (by simp) ?_
    cases fields <;> exact .meets _
  | .scalar (.text s) =>
    refine listOf_answers (by simp) ?_
    unfold Convert.itemsOf
    cases (Value.text s).isTrue <;> exact .meets _
  | .scalar (.bool b) => exact listOf_answers (by simp) (itemsOf_answers (.bool b) (by simp))
  | .scalar (.int n) => exact listOf_answers (by simp) (itemsOf_answers (.int n) (by simp))
  | .scalar (.float x) => exact listOf_answers (by simp) (itemsOf_answers (.float x) (by simp))

/-- A text agrees with a text when it is the same one. -/
theorem agrees_text (a b : String) : (Scalar.text a).agrees (.text b) = decide (a = b) :=
  beq_eq_decide a b

/-- A text agrees with nothing but a text. -/
theorem agrees_of_not_text (a : String) {s : Scalar} (noText : ∀ t, s ≠ .text t) :
    (Scalar.text a).agrees s = false := by
  cases s with
  | text t => exact absurd rfl (noText t)
  | null | bool b | int n | float x => rfl

/-- What is no text is no member of an enumeration of words. -/
theorem choice_of_not_text {α : Type} {c : Choice α} {word : α → String}
    (key : ∀ a, c.key a = .text (word a)) {s : Scalar} (noText : ∀ t, s ≠ .text t) :
    Convert.choice c (.scalar s)
      = .error (.unsuitable (.notMember (Value.scalar s).asQuoted c.title)) := by
  have found : (c.members.find? fun a => (c.key a).agrees s) = none := by
    simp [List.find?_eq_none, key, agrees_of_not_text _ noText]
  simp only [Convert.choice, found]

/-- A word is read as the member of an enumeration that it stands for. -/
theorem choice_answers {α : Type} {c : Choice α} {word : α → String}
    (key : ∀ a, c.key a = .text (word a)) (v : Value) :
    Suits (Convert.choice c v) ((oneOf (c.members.map word)).response v) := by
  match v with
  | .scalar (.text s) =>
    simp only [Convert.choice, response, key, agrees_text]
    cases found : c.members.find? fun a => decide (word a = s) with
    | some a =>
      have isMember : s ∈ c.members.map word :=
        List.mem_map.mpr ⟨a, List.mem_of_find?_eq_some found, by simpa using List.find?_some found⟩
      rw [if_pos (List.contains_iff_mem.mpr isMember)]
      exact .meets a
    | none =>
      have noMember : s ∉ c.members.map word := by
        simpa using List.find?_eq_none.mp found
      rw [if_neg (mt List.contains_iff_mem.mp noMember)]
      exact .unfit rfl
  | .scalar .null => exact choice_of_not_text key (s := .null) (by simp) ▸ .unfit rfl
  | .scalar (.bool b) => exact choice_of_not_text key (s := .bool b) (by simp) ▸ .unfit rfl
  | .scalar (.int n) => exact choice_of_not_text key (s := .int n) (by simp) ▸ .unfit rfl
  | .scalar (.float x) => exact choice_of_not_text key (s := .float x) (by simp) ▸ .unfit rfl
  | .list items => exact .unfit rfl
  | .object fields => exact .unfit rfl

end Demand

end Deskwork
