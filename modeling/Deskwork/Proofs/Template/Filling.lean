/-
# Filling the Fields of Steps

When the standard names have values, the texts in a field or in a step are filled as a single text is
(`Desk.expandContent_eq`, `Work.expand_eq`), and the custom variables are loaded where some text may hold a
token at all. Loading them leaves its traces in the journal, once (`Desk.sent_asked`).
-/
import Deskwork.Proofs.Session.Emissions
import Deskwork.Proofs.Template.Values

namespace Deskwork

open Deskwork.Template

/-! ## Fields -/

namespace Template.Content

variable {standard custom : List (String × String)} {bindings : List (String × Scalar)}

/-- What stands in a field, with every text in it changed. -/
def map (f : String → String) : Content → Content
  | .text s => .text (f s)
  | .texts items => .texts (items.map f)
  | .other => .other

/-- The texts in a field. -/
def toList : Content → List String
  | .text s => [s]
  | .texts items => items
  | .other => []

/-- A text in the field may hold a token. -/
def mayHoldTokens (c : Content) : Bool := c.toList.any Template.mayHoldTokens

theorem map_filling_eq_self {c : Content} (h : c.mayHoldTokens = false) :
    c.map (filling standard bindings custom) = c := by
  have each : ∀ text ∈ c.toList, filling standard bindings custom text = text := by
    intro text mem
    refine filling_eq_self ?_
    simpa using List.any_eq_false.mp h text mem
  cases c with
  | text s => exact congrArg Content.text (each s List.mem_cons_self)
  | texts items =>
    have same : items.map (filling standard bindings custom) = items :=
      (List.map_congr_left each).trans (List.map_id' items)
    exact congrArg Content.texts same
  | other => rfl

end Template.Content

/-! ## Loading -/

/-- The event belongs to the loading of custom variables: the provider was consulted, or a warning says that
they could not be had. -/
def Event.isLoading : Event → Bool
  | .consulted => true
  | .logged .warning source _ => source == Desk.templateSource
  | _ => false

/-- The provider was consulted. -/
def Event.isConsultation : Event → Bool
  | .consulted => true
  | _ => false

theorem Event.unheard_isLoading : Unheard Event.isLoading :=
  ⟨fun _ _ => ⟨rfl, rfl⟩, fun _ => rfl⟩

/-- What consulting the provider leaves in the journal: nothing if there is none or if it is the file of
preferences. -/
def Template.Provider.traces : Provider → List Event
  | .given _ | .failing _ => [.consulted]
  | .none | .settings _ => []

namespace Desk

variable {d : Desk} {standard : List (String × String)}

theorem known_loadedIf (needed : Bool) : (d.loadedIf needed).expander.known =
    if needed then some d.customVariables.1 else d.expander.known := by
  cases needed with
  | false => rfl
  | true => exact d.known_customVariables

/-- What is remembered stays. -/
theorem known_loadedIf_of_known {custom : List (String × String)}
    (h : d.expander.known = some custom) (needed : Bool) :
    (d.loadedIf needed).expander.known = some custom := by
  rw [known_loadedIf, customVariables_of_known h, h, ite_self]

theorem fst_customVariables_loadedIf (needed : Bool) :
    (d.loadedIf needed).customVariables.1 = d.customVariables.1 := by
  cases needed with
  | false => rfl
  | true => exact d.customVariables_again

/-- Loading again changes nothing. -/
theorem loadedIf_loadedIf (needed again : Bool) :
    (d.loadedIf needed).loadedIf again = d.loadedIf (needed || again) := by
  cases needed with
  | false => rfl
  | true =>
    cases again with
    | false => rfl
    | true => exact congrArg Prod.snd (customVariables_of_known d.known_customVariables)

/-- The standard names have the same values after the custom variables were loaded. -/
theorem standardValues_loadedIf (needed : Bool) :
    (d.loadedIf needed).standardValues (d.loadedIf needed).machine.wall
      = d.standardValues d.machine.wall := by
  have same : (d.loadedIf needed).setting = d.setting := by
    cases needed with
    | false => rfl
    | true => exact d.setting_customVariables
  simp only [setting, Prod.mk.injEq] at same
  obtain ⟨wall, user, computer⟩ := same
  unfold standardValues userName
  rw [wall, user, computer]

/-! ## The provider -/

/-- The custom variables that the provider gives: none when asking for them fails. -/
def offer (d : Desk) : List (String × String) :=
  match d.consult.1 with
  | .ok bindings => bindings
  | .error _ => []

/-- The desk after the provider was asked. A failure is logged. -/
def asked (d : Desk) : Desk :=
  match d.consult with
  | (.ok _, d') => d'
  | (.error f, d') =>
    if d'.expander.logs then
      d'.warn templateSource ("Failed to load custom variables: " ++ f.message)
    else d'

/-- The desk where some custom variables are remembered. -/
def remember (d : Desk) (custom : List (String × String)) : Desk :=
  { d with expander := { d.expander with known := some custom } }

/-- When nothing is remembered the provider is asked, and what it gives is remembered. -/
theorem customVariables_of_unknown (h : d.expander.known = none) :
    d.customVariables = (d.offer, d.asked.remember d.offer) := by
  unfold customVariables offer asked
  rw [h]
  obtain ⟨_ | _, _⟩ := d.consult
  all_goals rfl

/-- The warning that the provider failed, if it did and if that is logged. -/
def complaints (d : Desk) : List Event :=
  match d.consult.1 with
  | .ok _ => []
  | .error f =>
    if d.expander.logs && d.log.accepts .warning then
      [.logged .warning templateSource ("Failed to load custom variables: " ++ f.message)]
    else []

/-- What asking the provider leaves in the journal: what it leaves itself, and a warning when it failed. -/
def traces (d : Desk) : List Event := d.expander.provider.traces ++ d.complaints

/-- Among the traces of asking the provider, it is consulted at most once. -/
theorem countP_traces_le (d : Desk) : d.traces.countP Event.isConsultation ≤ 1 := by
  have complained : d.complaints.countP Event.isConsultation = 0 := by
    unfold complaints
    split
    · rfl
    · split <;> rfl
  rw [traces, List.countP_append, complained]
  cases d.expander.provider with
  | none => exact Nat.zero_le 1
  | given bindings => exact le_refl 1
  | failing why => exact le_refl 1
  | settings path => exact Nat.zero_le 1

/-- To consult the provider changes neither the log nor the expander. -/
theorem sent_consult (d : Desk) :
    d.consult.2.sent Event.isLoading = d.sent Event.isLoading ++ d.expander.provider.traces
      ∧ d.consult.2.log = d.log ∧ d.consult.2.expander = d.expander := by
  unfold consult
  cases d.expander.provider with
  | none => exact ⟨(List.append_nil _).symm, rfl, rfl⟩
  | given bindings => exact ⟨d.sent_record rfl, rfl, rfl⟩
  | failing why => exact ⟨d.sent_record rfl, rfl, rfl⟩
  | settings path => exact ⟨(List.append_nil _).symm, rfl, rfl⟩

/-- The traces of asking the provider are left once. -/
theorem sent_asked (d : Desk) :
    d.asked.sent Event.isLoading = d.sent Event.isLoading ++ d.traces := by
  obtain ⟨sent, log, expander⟩ := d.sent_consult
  unfold asked traces complaints
  generalize d.consult = p at sent log expander ⊢
  obtain ⟨f | custom, d'⟩ := p
  · dsimp only at sent log expander ⊢
    rw [expander]
    cases d.expander.logs with
    | false =>
      rw [Bool.false_and, if_neg Bool.false_ne_true, if_neg Bool.false_ne_true, List.append_nil]
      exact sent
    | true =>
      rw [if_pos rfl, Bool.true_and, ← List.append_assoc, ← sent, ← log]
      exact sent_logged Event.unheard_isLoading d' rfl
  · dsimp only at sent ⊢
    rw [List.append_nil]
    exact sent

/-! ## Expanding -/

section

variable (bindings : List (String × Scalar))

theorem expandAll_eq {texts : List String}
    (h : texts.any mayHoldTokens = true → d.standardValues d.machine.wall = .ok standard) :
    d.expandAll bindings texts =
      (.ok (texts.map (filling standard bindings d.customVariables.1)),
        d.loadedIf (texts.any mayHoldTokens)) := by
  induction texts generalizing d with
  | nil => rfl
  | cons text rest ih =>
    rw [List.any_cons, Bool.or_eq_true] at h
    have later := ih fun may => (standardValues_loadedIf (mayHoldTokens text)).trans (h (.inr may))
    rw [fst_customVariables_loadedIf, loadedIf_loadedIf] at later
    rw [expandAll, expand_eq bindings fun may => h (.inl may)]
    dsimp only
    rw [later]
    rfl

/-- What stands in a field is filled, and the custom variables are loaded if a text in it may hold a
token. -/
theorem expandContent_eq {c : Content}
    (h : c.mayHoldTokens = true → d.standardValues d.machine.wall = .ok standard) :
    d.expandContent bindings c =
      (.ok (c.map (filling standard bindings d.customVariables.1)), d.loadedIf c.mayHoldTokens) := by
  cases c with
  | text s =>
    have single : Content.mayHoldTokens (.text s) = mayHoldTokens s := Bool.or_false _
    rw [single] at h ⊢
    rw [expandContent, expand_eq bindings h]
    rfl
  | texts items =>
    rw [expandContent, expandAll_eq bindings (show items.any _ = true → _ from h)]
    rfl
  | other => rfl

end

end Desk

namespace Work

/-- The given fields filled one after the other, and what stood in those that changed. -/
def fillFields (f : String → String) : List String → Work → List (String × Content) × Work
  | [], w => ([], w)
  | name :: names, w =>
    let authored := w.read name
    let filled := authored.map f
    if filled = authored then fillFields f names w
    else
      let (originals, w) := fillFields f names (w.write name filled)
      ((name, authored) :: originals, w)

/-- The template fields filled. -/
def fill (f : String → String) (w : Work) : List (String × Content) × Work :=
  fillFields f w.templateFields w

/-- A text in one of the given fields may hold a token. -/
def mayHoldIn (w : Work) (names : List String) : Bool :=
  names.any fun name => (w.read name).mayHoldTokens

/-- A text in a template field may hold a token. -/
def mayHoldTokens (w : Work) : Bool := w.mayHoldIn w.templateFields

variable {d : Desk} {standard custom : List (String × String)}

/-- Where no text can hold a token, nothing is changed, whatever the names stand for. -/
theorem fillFields_filling_eq_self {bindings : List (String × Scalar)} {names : List String} {w : Work}
    (h : w.mayHoldIn names = false) : fillFields (filling standard bindings custom) names w = ([], w) := by
  induction names with
  | nil => rfl
  | cons name names ih =>
    obtain ⟨first, rest⟩ := Bool.or_eq_false_iff.mp h
    rw [fillFields, if_pos (Content.map_filling_eq_self first)]
    exact ih rest

variable (bindings : List (String × Scalar))

theorem expandFields_eq {names : List String} {w : Work}
    (h : w.mayHoldIn names = true → d.standardValues d.machine.wall = .ok standard) :
    expandFields bindings names w d =
      (.ok (fillFields (filling standard bindings d.customVariables.1) names w).1,
        (fillFields (filling standard bindings d.customVariables.1) names w).2,
        d.loadedIf (w.mayHoldIn names)) := by
  induction names generalizing w d with
  | nil => rfl
  | cons name names ih =>
    have held : w.mayHoldIn (name :: names) = ((w.read name).mayHoldTokens || w.mayHoldIn names) := rfl
    rw [held, Bool.or_eq_true] at h
    have later (w' : Work)
        (known : w'.mayHoldIn names = true → d.standardValues d.machine.wall = .ok standard) :=
      ih (d := d.loadedIf (w.read name).mayHoldTokens)
        fun may => (Desk.standardValues_loadedIf _).trans (known may)
    simp only [Desk.fst_customVariables_loadedIf, Desk.loadedIf_loadedIf] at later
    rw [expandFields, Desk.expandContent_eq bindings fun may => h (.inl may), fillFields, held]
    dsimp only
    by_cases same : (w.read name).map (filling standard bindings d.customVariables.1) = w.read name
    · rw [if_pos same, if_pos same, later w fun may => h (.inr may)]
    · -- a text that changes may hold a token, so that it does not matter what stands in later fields
      have may : (w.read name).mayHoldTokens = true := by
        by_contra none
        exact same (Content.map_filling_eq_self (Bool.not_eq_true _ ▸ none))
      rw [if_neg same, if_neg same, later _ fun _ => h (.inl may), may, Bool.true_or, Bool.true_or]
      rfl

/-- The template fields of a step are filled, and the custom variables are loaded if a text in them may hold
a token. -/
theorem expand_eq {w : Work}
    (h : w.mayHoldTokens = true → d.standardValues d.machine.wall = .ok standard) :
    w.expand bindings d =
      (.ok (w.fill (filling standard bindings d.customVariables.1)).1,
        (w.fill (filling standard bindings d.customVariables.1)).2, d.loadedIf w.mayHoldTokens) :=
  expandFields_eq bindings h

end Work

end Deskwork
