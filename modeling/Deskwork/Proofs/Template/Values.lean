/-
# The Values of Names

The names for which tokens stand are those of three groups: the standard names, the variables of the run and
the custom variables (`Desk.values`). When the standard names have values, a text is expanded by filling the
tokens of all these names in order (`Desk.expand_eq`), also when it is left alone because it can hold no
token; for that the user has to be known (`Desk.fst_expand`). Afterwards the names have the same values
(`Desk.values_expand`). The date and the time never bring in a percent sign (`Desk.unmarked_values_iff`).
-/
import Deskwork.Proofs.Desk
import Deskwork.Proofs.Text.Replacing
import Deskwork.Proofs.Time.Texts

namespace Deskwork

open Deskwork.Text Deskwork.Template

/-! ## Texts of dates and times -/

namespace Time

/-- A number with zeros in front has digits only. -/
theorem not_mem_padded {c : Char} (noDigit : c.isDigit = false) (width n : Nat) :
    c ∉ (padded width n).toList := by
  intro mem
  have digit : c.isDigit = true := isDigit_of_mem_digits mem
  rw [noDigit] at digit
  cases digit

/-- A number has digits only. -/
theorem not_mem_toString {c : Char} (noDigit : c.isDigit = false) (n : Nat) :
    c ∉ (toString n).toList := by
  intro mem
  have own : c ∈ Nat.toDigits 10 n := by simpa [Nat.repr] using mem
  have digit := Nat.isDigit_of_mem_toDigits (by decide) (by decide) own
  rw [noDigit] at digit
  cases digit

namespace Moment

variable {c : Char} (noDigit : c.isDigit = false) {sep : String} (noSep : c ∉ sep.toList) (m : Moment)

include noDigit noSep

/-- A date consists of digits and what separates them. -/
theorem not_mem_shortDate : c ∉ (m.shortDate sep).toList := by
  simp only [shortDate, String.toList_append, List.mem_append, not_or]
  exact ⟨⟨⟨⟨not_mem_toString noDigit _, noSep⟩, not_mem_padded noDigit _ _⟩, noSep⟩,
    not_mem_padded noDigit _ _⟩

/-- A time consists of digits and what separates them. -/
theorem not_mem_clock : c ∉ (m.clock sep).toList := by
  simp only [clock, clockText, String.toList_append, List.mem_append, not_or]
  exact ⟨⟨⟨⟨not_mem_padded noDigit _ _, noSep⟩, not_mem_padded noDigit _ _⟩, noSep⟩,
    not_mem_padded noDigit _ _⟩

end Moment

end Time

/-! ## Tokens -/

namespace Template

variable {text name : String} {values : List (String × String)}

theorem toList_token (name : String) : (token name).toList = '%' :: (name.toList ++ ['%']) := by
  simp [token]

/-- No name and no value holds a percent sign. -/
def Unmarked (values : List (String × String)) : Prop :=
  ∀ v ∈ values, '%' ∉ v.1.toList ∧ '%' ∉ v.2.toList

instance (values : List (String × String)) : Decidable (Unmarked values) :=
  inferInstanceAs (Decidable (∀ _ ∈ _, _))

/-- None of the standard names holds a percent sign, and among their values only the name of the user or
of the computer can. -/
theorem unmarked_standardValues (now : Time.Moment) {user computer : String}
    (plain : '%' ∉ user.toList) (plain' : '%' ∉ computer.toList) :
    Unmarked (standardValues now user computer) := by
  have digit : '%'.isDigit = false := by decide
  have date (sep : String) (noSep : '%' ∉ sep.toList) := Time.Moment.not_mem_shortDate digit noSep now
  have time (sep : String) (noSep : '%' ∉ sep.toList) := Time.Moment.not_mem_clock digit noSep now
  unfold Unmarked standardValues
  simp only [List.forall_mem_cons, List.not_mem_nil, false_imp_iff, implies_true, and_true]
  refine ⟨⟨by decide, date _ (by decide)⟩, ⟨by decide, time _ (by decide)⟩, ⟨by decide, ?_⟩,
    ⟨by decide, ?_⟩, ⟨by decide, plain⟩, ⟨by decide, plain'⟩,
    ⟨by decide, Time.not_mem_toString digit _⟩, ⟨by decide, Time.not_mem_padded digit _ _⟩,
    ⟨by decide, Time.not_mem_padded digit _ _⟩, ⟨by decide, Time.not_mem_padded digit _ _⟩,
    ⟨by decide, Time.not_mem_padded digit _ _⟩, ⟨by decide, Time.not_mem_padded digit _ _⟩⟩
  · simp only [String.toList_append, List.mem_append, not_or]
    exact ⟨⟨date _ (by decide), by decide⟩, time _ (by decide)⟩
  · rw [String.toList_append, List.mem_append, not_or]
    exact ⟨date _ (by decide), time _ (by decide)⟩

/-- No token of the given names stands in a text. -/
def Settled (values : List (String × String)) (text : String) : Prop :=
  ∀ v ∈ values, holds text (token v.1) = false

instance (values : List (String × String)) (text : String) : Decidable (Settled values text) :=
  inferInstanceAs (Decidable (∀ _ ∈ _, _))

/-- A text that holds a token may hold tokens. -/
theorem mayHoldTokens_of_holds (h : holds text (token name) = true) : mayHoldTokens text = true := by
  rw [holds_iff] at h
  have percent : '%' ∈ text.toList := h.subset (by simp [toList_token])
  have notBlank : allBlank text = false := by
    rw [allBlank, List.all_eq_false]
    exact ⟨'%', percent, by decide⟩
  simp [mayHoldTokens, notBlank, percent]

theorem settled_of_not_mayHoldTokens (h : mayHoldTokens text = false) : Settled values text := by
  intro v _
  by_contra holds
  rw [mayHoldTokens_of_holds (Bool.not_eq_false _ ▸ holds)] at h
  cases h

/-- Where there is no token of a name, nothing is replaced. -/
theorem fill_eq_self {value : String} (h : holds text (token name) = false) :
    fill text name value = text := by
  rw [fill, replace, replaceAll_eq_self (holds_eq_false_iff.mp h), String.ofList_toList]

/-- Where there is no token of any of the names, nothing is replaced. -/
theorem fillAll_eq_self (h : Settled values text) : fillAll text values = text := by
  induction values with
  | nil => rfl
  | cons v rest ih =>
    obtain ⟨first, others⟩ := List.forall_mem_cons.mp h
    rw [fillAll_cons, fill_eq_self first, ih others]

/-- A text with the tokens of all names filled, those of custom variables last. -/
def filling (standard : List (String × String)) (bindings : List (String × Scalar))
    (custom : List (String × String)) (text : String) : String :=
  fillAll text (standard ++ bindings.map (fun v => (v.1, v.2.asText)) ++ custom)

/-- A text that can hold no token is left alone. -/
theorem filling_eq_self {standard custom : List (String × String)} {bindings : List (String × Scalar)}
    {text : String} (h : mayHoldTokens text = false) :
    filling standard bindings custom text = text :=
  fillAll_eq_self (settled_of_not_mayHoldTokens h)

end Template

/-! ## Expanding at the desk -/

namespace Desk

variable {d d' : Desk} {user text : String} {bindings : List (String × Scalar)}

/-- What the standard names get their values from. -/
def setting (d : Desk) : Time.Moment × Except Foreign String × String :=
  (d.machine.wall, d.machine.user, d.machine.computer)

theorem setting_consult (d : Desk) : d.consult.2.setting = d.setting := by
  unfold consult
  cases d.expander.provider <;> rfl

theorem setting_logged (d : Desk) (level : Level) (source message : String) :
    (d.logged level source message).setting = d.setting := by
  show (d.logged level source message).hushed.setting = d.hushed.setting
  rw [hushed_logged]

/-- Asking for the custom variables changes nothing that the standard names get their values from. -/
theorem setting_customVariables (d : Desk) : d.customVariables.2.setting = d.setting := by
  have asked := d.setting_consult
  unfold customVariables
  cases d.expander.known with
  | some bindings => rfl
  | none =>
    dsimp only
    generalize d.consult = p at asked ⊢
    obtain ⟨_ | bindings, d'⟩ := p
    · dsimp only
      split
      · exact (d'.setting_logged _ _ _).trans asked
      · exact asked
    · exact asked

/-- Custom variables that are remembered are not loaded again. -/
theorem customVariables_of_known {custom : List (String × String)}
    (h : d.expander.known = some custom) : d.customVariables = (custom, d) := by
  unfold customVariables
  rw [h]

/-- What was loaded is remembered. -/
theorem known_customVariables (d : Desk) :
    d.customVariables.2.expander.known = some d.customVariables.1 := by
  unfold customVariables
  cases known : d.expander.known with
  | some custom => exact known
  | none => rfl

/-- The custom variables stay the same until they are loaded again. -/
theorem customVariables_again (d : Desk) :
    d.customVariables.2.customVariables.1 = d.customVariables.1 :=
  congrArg Prod.fst (customVariables_of_known d.known_customVariables)

/-- The desk after the custom variables were loaded, if they are needed. -/
def loadedIf (d : Desk) (needed : Bool) : Desk := if needed then d.customVariables.2 else d

/-- The names that tokens can have, with their values, in the order in which they are tried. -/
def values (d : Desk) (bindings : List (String × Scalar)) (user : String) : List (String × String) :=
  Template.standardValues d.machine.wall user d.machine.computer
    ++ bindings.map (fun v => (v.1, v.2.asText)) ++ d.customVariables.1

/-- Whether a percent sign stands in a name or a value is a question of the names of the user and of the
computer and of the variables: the date and the time bring in none. -/
theorem unmarked_values_iff :
    Unmarked (d.values bindings user) ↔
      ('%' ∉ user.toList ∧ '%' ∉ d.machine.computer.toList)
        ∧ (∀ v ∈ bindings, '%' ∉ v.1.toList ∧ '%' ∉ v.2.asText.toList)
        ∧ Unmarked d.customVariables.1 := by
  have standard : Unmarked (Template.standardValues d.machine.wall user d.machine.computer) ↔
      '%' ∉ user.toList ∧ '%' ∉ d.machine.computer.toList := by
    constructor
    · intro unmarked
      exact ⟨(unmarked ("user", user) (by simp [Template.standardValues])).2,
        (unmarked ("computer", d.machine.computer) (by simp [Template.standardValues])).2⟩
    · rintro ⟨plain, plain'⟩
      exact unmarked_standardValues d.machine.wall plain plain'
  rw [← standard, values, Unmarked, List.forall_mem_append, List.forall_mem_append, List.forall_mem_map,
    and_assoc]
  rfl

/-- When the standard names have values, the tokens of all names are filled, and the custom variables are
loaded if there may be any token. -/
theorem expand_eq (bindings : List (String × Scalar)) {standard : List (String × String)}
    (h : mayHoldTokens text = true → d.standardValues d.machine.wall = .ok standard) :
    d.expand bindings text =
      (.ok (filling standard bindings d.customVariables.1 text), d.loadedIf (mayHoldTokens text)) := by
  unfold expand
  cases may : mayHoldTokens text with
  | false =>
    rw [filling_eq_self may]
    rfl
  | true =>
    rw [h may]
    simp only [filling, fillAll, List.foldl_append]
    rfl

/-- When the user is known, the tokens of all names are replaced. -/
theorem fst_expand (known : d.userName = .ok user) :
    (d.expand bindings text).1 = .ok (fillAll text (d.values bindings user)) := by
  have standard : d.standardValues d.machine.wall
      = .ok (Template.standardValues d.machine.wall user d.machine.computer) := by
    rw [standardValues, known]
    rfl
  exact congrArg Prod.fst (expand_eq bindings fun _ => standard)

/-- The names have the same values where the standard names get the same values and the custom variables
are the same. -/
theorem values_congr (setting : d'.setting = d.setting)
    (custom : d'.customVariables.1 = d.customVariables.1) :
    d'.userName = d.userName ∧ d'.values bindings user = d.values bindings user := by
  obtain ⟨wall, sameUser, computer⟩ :
      d'.machine.wall = d.machine.wall ∧ d'.machine.user = d.machine.user
        ∧ d'.machine.computer = d.machine.computer := by
    simpa [Desk.setting] using setting
  unfold userName values
  rw [wall, sameUser, computer, custom]
  exact ⟨rfl, rfl⟩

/-- After an expansion the user is known as before, and the names have the same values. -/
theorem values_expand (d : Desk) (bindings : List (String × Scalar)) (text user : String) :
    (d.expand bindings text).2.userName = d.userName
      ∧ (d.expand bindings text).2.values bindings user = d.values bindings user := by
  unfold expand
  split
  · exact ⟨rfl, rfl⟩
  · split
    · exact ⟨rfl, rfl⟩
    · exact values_congr d.setting_customVariables d.customVariables_again

end Desk

end Deskwork
