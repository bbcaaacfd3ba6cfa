/-
# Registered Classes

Classes of steps are registered one after the other. A call that is refused leaves the registry as it was
(`call_cases`), and the classes that were not refused are the ones that stand under their tags
(`get?_after_iff`). But tags are tidied before they are looked up and not when they are registered. So a
class loads from its own tag exactly when there is nothing to tidy in the tag, and any other class never
loads: its tag is then unknown or that of another class (`serves_after`).
-/
import Deskwork.Proofs.Tables
import Deskwork.Step.Registry
import Mathlib.Data.List.Induction

namespace Deskwork

open Deskwork.Text

/-- A tag without blanks around it, in lower case. -/
def Step.tidy (tag : String) : String := lower (trim tag)

namespace Registry

/-- The class of a step that has a tag and no data. -/
def load (r : Registry) (tag : String) : Except Fault StepClass := r.classOf [("type", .text tag)]

/-- The class that loads is the one that stands under the tidied tag. -/
theorem load_eq (r : Registry) (tag : String) : r.load tag =
    match Table.get? r (Step.tidy tag) with
    | none => .error (.failed (.unknownKind (Step.tidy tag)))
    | some c => .ok c := rfl

/-! ## Calls -/

/-- A class registered in the one registry that everybody uses. What a call has written before it is refused
stays written. -/
def enroll (c : StepClass) : ExceptT Fault (StateM Registry) Unit := do
  if c.tag.isEmpty then throw (.untagged c.title)
  if let some other := Table.get? (← get) c.tag then
    if other ≠ c then throw (.duplicateKind c.tag)
  modify fun r => Table.put r c.tag c

/-- A call: whether it is refused, and the registry afterwards. -/
def call (c : StepClass) (r : Registry) : Except Fault Unit × Registry :=
  Id.run ((enroll c).run.run r)

/-- A program that looks at the registry goes on with it. -/
theorem run_get (k : Registry → ExceptT Fault (StateM Registry) Unit) (r : Registry) :
    (get >>= k).run.run r = (k r).run.run r := rfl

/-- A call is refused before anything is written, and a class that is registered again stands there
already. -/
theorem call_eq (c : StepClass) (r : Registry) : call c r =
    match r.register c with
    | .ok r' => (.ok (), r')
    | .error f => (.error f, r) := by
  unfold register call enroll
  by_cases untagged : c.tag.isEmpty = true
  · rw [if_pos untagged, if_pos untagged]
    rfl
  · rw [if_neg untagged, if_neg untagged]
    dsimp only
    rw [run_get]
    cases stands : Table.get? r c.tag with
    | none => rfl
    | some other =>
      by_cases same : other = c
      · subst same
        simp only [ne_eq, not_true_eq_false, if_false, if_true]
        exact congrArg (Prod.mk _) (Table.put_of_get? stands)
      · simp only [ne_eq, same, not_false_eq_true, if_true, if_false]
        rfl

/-- What a call does: it is refused for want of a tag, or because another class has the tag, and leaves the
registry as it was; or else the class stands under its tag, and nothing else is different. -/
theorem call_cases (c : StepClass) (r : Registry) :
    (c.tag = "" ∧ call c r = (.error (.untagged c.title), r))
    ∨ (c.tag ≠ "" ∧ (∃ other, Table.get? r c.tag = some other ∧ other ≠ c)
      ∧ call c r = (.error (.duplicateKind c.tag), r))
    ∨ (c.tag ≠ "" ∧ (∀ other, Table.get? r c.tag = some other → other = c)
      ∧ ∃ r', call c r = (.ok (), r')
        ∧ ∀ tag, Table.get? r' tag = if tag = c.tag then some c else Table.get? r tag) := by
  rw [call_eq]
  unfold register
  by_cases untagged : c.tag = ""
  · left
    exact ⟨untagged, by simp [untagged]⟩
  · right
    rw [if_neg (by simpa using untagged)]
    cases stands : Table.get? r c.tag with
    | none =>
      right
      refine ⟨untagged, by simp, _, rfl, fun tag => ?_⟩
      by_cases own : tag = c.tag
      · rw [if_pos own, own, Table.get?_put_self]
      · rw [if_neg own, Table.get?_put_of_ne r c own]
    | some other =>
      by_cases same : other = c
      · subst same
        right
        refine ⟨untagged, by simp, r, by simp, fun tag => ?_⟩
        split
        case isTrue own => rw [own, stands]
        case isFalse => rfl
      · left
        exact ⟨untagged, ⟨other, rfl, same⟩, by simp [same]⟩

/-! ## Histories -/

/-- The registry and the classes that were registered, after one more call. -/
def note (s : Registry × List StepClass) (c : StepClass) : Registry × List StepClass :=
  match call c s.1 with
  | (.ok _, r) => (r, s.2 ++ [c])
  | (.error _, r) => (r, s.2)

/-- The registry after some calls, and the classes that were registered by those that were not refused. -/
def after (calls : List StepClass) : Registry × List StepClass := calls.foldl note ([], [])

/-- Under the tags of a registry stand some classes, each under its own. -/
def Holds (s : Registry × List StepClass) : Prop :=
  ∀ tag c, Table.get? s.1 tag = some c ↔ c ∈ s.2 ∧ c.tag = tag

/-- A call keeps every class under its own tag. -/
theorem holds_note {s : Registry × List StepClass} (h : Holds s) (c : StepClass) : Holds (note s c) := by
  unfold note
  obtain ⟨-, refused⟩ | ⟨-, -, refused⟩ | ⟨-, alone, r, done, found⟩ := call_cases c s.1
  · rw [refused]
    exact h
  · rw [refused]
    exact h
  · rw [done]
    intro tag c'
    rw [found, List.mem_append, List.mem_singleton]
    by_cases own : tag = c.tag
    · rw [if_pos own, Option.some_inj]
      constructor
      · rintro rfl
        exact ⟨.inr rfl, own.symm⟩
      · rintro ⟨mem | rfl, tagged⟩
        · exact (alone c' ((h _ _).mpr ⟨mem, tagged.trans own⟩)).symm
        · rfl
    · rw [if_neg own, h]
      constructor
      · rintro ⟨mem, tagged⟩
        exact ⟨.inl mem, tagged⟩
      · rintro ⟨mem | rfl, tagged⟩
        · exact ⟨mem, tagged⟩
        · exact absurd tagged.symm own

/-- After some calls, the classes that were registered are the ones that stand under their tags. -/
theorem get?_after_iff (calls : List StepClass) {tag : String} {c : StepClass} :
    Table.get? (after calls).1 tag = some c ↔ c ∈ (after calls).2 ∧ c.tag = tag := by
  have holds : Holds (after calls) := by
    unfold after
    induction calls using List.reverseRecOn with
    | nil =>
      intro tag c
      simp [Table.get?]
    | append_singleton calls c ih =>
      rw [List.foldl_append]
      exact holds_note ih c
  exact holds tag c

/-- The standard registry is what comes of registering its classes one after the other. -/
example : after (standard.map Prod.snd) = (standard, standard.map Prod.snd) := by decide +kernel

/-! ## What loads -/

/-- The class that loads after some calls is the one that was registered with the tidied tag. -/
theorem load_after (calls : List StepClass) (tag : String) :
    (after calls).1.load tag = match (after calls).2.find? (·.tag = Step.tidy tag) with
      | none => .error (.failed (.unknownKind (Step.tidy tag)))
      | some c => .ok c := by
  have same : Table.get? (after calls).1 (Step.tidy tag)
      = (after calls).2.find? (·.tag = Step.tidy tag) := by
    cases found : (after calls).2.find? (·.tag = Step.tidy tag) with
    | none =>
      rw [List.find?_eq_none] at found
      by_contra stands
      obtain ⟨c, stands⟩ := Option.ne_none_iff_exists'.mp stands
      obtain ⟨mem, tagged⟩ := (get?_after_iff calls).mp stands
      exact found c mem (by simpa using tagged)
    | some c =>
      have tagged : c.tag = Step.tidy tag := by simpa using List.find?_some found
      exact (get?_after_iff calls).mpr ⟨List.mem_of_find?_eq_some found, tagged⟩
  rw [load_eq, same]

/-- A class that was registered loads from its own tag exactly when the tag is tidy. -/
theorem load_own_iff (calls : List StepClass) {c : StepClass} (registered : c ∈ (after calls).2) :
    (after calls).1.load c.tag = .ok c ↔ Step.tidy c.tag = c.tag := by
  have stands : Table.get? (after calls).1 c.tag = some c :=
    (get?_after_iff calls).mpr ⟨registered, rfl⟩
  rw [load_eq]
  constructor
  · intro loaded
    split at loaded
    · cases loaded
    case h_2 other found =>
      cases loaded
      exact ((get?_after_iff calls).mp found).2.symm
  · intro tidy
    rw [tidy, stands]

/-- How a registry serves those who register classes and load steps. -/
structure Serves (calls : List StepClass) : Prop where
  /-- A class that was registered loads from its own tag exactly when there is nothing to tidy in it. -/
  own : ∀ c ∈ (after calls).2, (after calls).1.load c.tag = .ok c ↔ Step.tidy c.tag = c.tag
  /-- From any text loads the class that was registered with the tidied text as its tag, if there is one. -/
  every : ∀ tag, (after calls).1.load tag =
    match (after calls).2.find? (·.tag = Step.tidy tag) with
    | none => .error (.failed (.unknownKind (Step.tidy tag)))
    | some c => .ok c
  /-- The next call is refused exactly when its class has no tag, or that of another class. -/
  refused : ∀ c, (∃ f, (call c (after calls).1).1 = .error f) ↔
    c.tag = "" ∨ ∃ other ∈ (after calls).2, other.tag = c.tag ∧ other ≠ c
  /-- Then the registry stays as it is. -/
  unchanged : ∀ c f, (call c (after calls).1).1 = .error f → (call c (after calls).1).2 = (after calls).1

/-- After any calls, exactly the registered classes with tidy tags load from their own tags. -/
theorem serves_after (calls : List StepClass) : Serves calls := by
  have taken (c : StepClass) : (∃ other, Table.get? (after calls).1 c.tag = some other ∧ other ≠ c) ↔
      ∃ other ∈ (after calls).2, other.tag = c.tag ∧ other ≠ c := by
    simp only [get?_after_iff, and_assoc]
  constructor
  · intro c registered
    exact load_own_iff calls registered
  · exact load_after calls
  · intro c
    rw [← taken]
    obtain ⟨untagged, refused⟩ | ⟨-, other, refused⟩ | ⟨tagged, alone, r, done, -⟩ :=
      call_cases c (after calls).1
    · simp [refused, untagged]
    · simp [refused, other]
    · simp only [done, tagged, reduceCtorEq, exists_false, false_or, false_iff, not_exists, not_and,
        not_not]
      exact alone
  · intro c f failed
    obtain ⟨-, refused⟩ | ⟨-, -, refused⟩ | ⟨-, -, r, done, -⟩ := call_cases c (after calls).1
    · rw [refused]
    · rw [refused]
    · rw [done] at failed
      cases failed

/-- The standard classes, and four others: one with a capital in its tag, one with a blank after a tag that
is taken, and two with the same tag. -/
def additions : List StepClass :=
  standard.map Prod.snd
    ++ [⟨1, "Shout", "Shout"⟩, ⟨2, "Twin", "wait "⟩, ⟨3, "Plain", "plain"⟩, ⟨4, "Rival", "plain"⟩]

/-- The first three of the others are registered. The first one does not load, in place of the second one
another class loads, and the third one loads. The last one is refused. -/
theorem serves_after_additions :
    let s := after additions
    Serves additions ∧ s.2 = additions.dropLast
      ∧ s.1.load "Shout" = .error (.failed (.unknownKind "shout"))
      ∧ s.1.load "wait " = .ok ⟨0, "WaitAction", "wait"⟩
      ∧ s.1.load "plain" = .ok ⟨3, "Plain", "plain"⟩ := by
  intro s
  have registered : s.2 = additions.dropLast := by decide +kernel
  have serves : Serves additions := serves_after additions
  refine ⟨serves, registered, ?_, ?_, ?_⟩
  · rw [serves.every, registered]
    decide +kernel
  · rw [serves.every, registered]
    decide +kernel
  · rw [serves.own ⟨3, "Plain", "plain"⟩ (by rw [registered]; decide +kernel)]
    decide +kernel

end Registry

end Deskwork
