/-
# What a Run Moves

From one visit to the next an engine keeps its steps: a step may make progress while it is visited,
and it may be switched off, but it stays the same step and is never switched on (`Slot.Later`).
Passing over disabled steps moves nothing but the desk (`reach_some`), and a visit moves the
progress of its own step only (`moved_settled`).
-/
import Deskwork.Proofs.Run.Visit

namespace Deskwork

open StepM

/-! ## Slots -/

/-- The same step at a later time: it may have been switched off and have made progress. -/
structure Slot.Later (s t : Slot) : Prop where
  /-- It does the same. -/
  work : t.work = s.work
  /-- It may fail or not, as before. -/
  continueOnError : t.continueOnError = s.continueOnError
  /-- It was not switched on. -/
  enabled : t.enabled = true → s.enabled = true

theorem Slot.Later.refl (s : Slot) : s.Later s := ⟨rfl, rfl, id⟩

theorem Slot.Later.trans {s t u : Slot} (h : s.Later t) (h' : t.Later u) : s.Later u :=
  ⟨h'.work.trans h.work, h'.continueOnError.trans h.continueOnError, h.enabled ∘ h'.enabled⟩

/-- The slot as it was when it was authored. -/
def Slot.asNew (s : Slot) : Slot := { s with progress := .fresh }

namespace Engine

/-! ## Moves -/

/-- The engine after something happened at the steps at some indexes: no other step made progress.
-/
structure Moved (indexes : List Nat) (e e' : Engine) : Prop where
  /-- The same one watches. -/
  observer : e'.observer = e.observer
  /-- The same number of steps is allowed. -/
  maxSteps : e'.maxSteps = e.maxSteps
  /-- The same one takes care of pauses. -/
  hooked : e'.context.hooked = e.context.hooked
  /-- There are as many steps. -/
  length : e'.slots.length = e.slots.length
  /-- Every step stays, and only those at the indexes make progress. -/
  slots : ∀ {i t}, e'.slots[i]? = some t →
    ∃ s, e.slots[i]? = some s ∧ s.Later t ∧ (i ∉ indexes → t.progress = s.progress)

theorem Moved.trans {xs ys : List Nat} {e e' e'' : Engine} (h : e.Moved xs e')
    (h' : e'.Moved ys e'') : e.Moved (xs ++ ys) e'' := by
  refine ⟨h'.observer.trans h.observer, h'.maxSteps.trans h.maxSteps, h'.hooked.trans h.hooked,
    h'.length.trans h.length, fun {i u} hu => ?_⟩
  obtain ⟨t, ht, htu, hprogress⟩ := h'.slots hu
  obtain ⟨s, hs, hst, hprogress'⟩ := h.slots ht
  refine ⟨s, hs, hst.trans htu, fun hi => ?_⟩
  rw [List.mem_append, not_or] at hi
  exact (hprogress hi.2).trans (hprogress' hi.1)

/-- What does not show in the slots, the context or the settings is no move. -/
theorem Moved.of_eq {e e' : Engine} (observer : e'.observer = e.observer)
    (maxSteps : e'.maxSteps = e.maxSteps) (context : e'.context = e.context)
    (slots : e'.slots = e.slots) : e.Moved [] e' :=
  ⟨observer, maxSteps, by rw [context], by rw [slots], fun {_ t} h =>
    ⟨t, slots ▸ h, .refl t, fun _ => rfl⟩⟩

theorem Moved.refl (e : Engine) : e.Moved [] e := .of_eq rfl rfl rfl rfl

/-- Moves at more indexes. -/
theorem Moved.mono {xs ys : List Nat} {e e' : Engine} (h : e.Moved xs e') (hxy : xs ⊆ ys) :
    e.Moved ys e' := by
  refine ⟨h.observer, h.maxSteps, h.hooked, h.length, fun {i t} ht => ?_⟩
  obtain ⟨s, hs, hst, hprogress⟩ := h.slots ht
  exact ⟨s, hs, hst, fun hi => hprogress fun hx => hi (hxy hx)⟩

/-- A step at no such index has its progress as before. -/
theorem Moved.progress_eq {xs : List Nat} {e e' : Engine} (h : e.Moved xs e') {i : Nat}
    (hi : i ∉ xs) : (e'.slots[i]?).map Slot.progress = (e.slots[i]?).map Slot.progress := by
  cases ht : e'.slots[i]? with
  | none =>
    rw [List.getElem?_eq_none_iff, h.length, ← List.getElem?_eq_none_iff] at ht
    rw [ht]
  | some t =>
    obtain ⟨s, hs, -, hprogress⟩ := h.slots ht
    rw [hs, Option.map_some, Option.map_some, hprogress hi]

/-- Where nothing is switched off, moves keep every step as it was authored. -/
theorem Moved.map_asNew {xs : List Nat} {e e' : Engine} (h : e.Moved xs e')
    (henabled : e'.slots.map Slot.enabled = e.slots.map Slot.enabled) :
    e'.slots.map Slot.asNew = e.slots.map Slot.asNew := by
  refine List.ext_getElem? fun i => ?_
  have hi := congrArg (·[i]?) henabled
  simp only [List.getElem?_map] at hi ⊢
  cases ht : e'.slots[i]? with
  | none =>
    have hs : e.slots[i]? = none := by
      rw [List.getElem?_eq_none_iff] at ht ⊢
      have := h.length
      omega
    rw [hs]
  | some t =>
    obtain ⟨s, hs, hlater, -⟩ := h.slots ht
    rw [ht, hs] at hi
    have hsame : t.enabled = s.enabled := Option.some.inj hi
    rw [hs]
    simp only [Option.map_some, Slot.asNew]
    rw [hsame, hlater.work, hlater.continueOnError]

/-- Changing the progress of the slot at an index is a move there. -/
theorem moved_modifySlot (e : Engine) (index : Nat) (message : Option String) :
    e.Moved [index] (e.modifySlot index (withError message)) := by
  refine ⟨rfl, rfl, rfl, List.length_modify .., fun {i t} h => ?_⟩
  unfold modifySlot at h
  rw [List.getElem?_modify, Option.map_eq_map, Option.map_eq_some_iff] at h
  obtain ⟨s, hs, rfl⟩ := h
  refine ⟨s, hs, ?_, fun hi => ?_⟩
  · split
    · exact ⟨rfl, rfl, id⟩
    · exact .refl s
  · rw [if_neg (Ne.symm (List.ne_of_not_mem_cons hi))]

/-- Absorbing a session is a move at its index. -/
theorem moved_absorb (e : Engine) (index : Nat) (s : Session)
    (h : s.context.hooked = e.context.hooked) : e.Moved [index] (e.absorb index s) := by
  refine ⟨rfl, rfl, h, ?_, fun {i t} ht => ?_⟩
  · unfold absorb
    rw [length_disableAll, List.length_modify]
  · rw [e.getElem?_absorb index s, Option.map_eq_some_iff] at ht
    obtain ⟨u, hu, rfl⟩ := ht
    refine ⟨u, hu, ⟨rfl, rfl, fun h => ?_⟩, fun hi => ?_⟩
    · exact (Bool.and_eq_true_iff.mp h).1
    · exact if_neg (Ne.symm (List.ne_of_not_mem_cons hi))

/-- What does not look at the last error reads the same from the slots after it was changed. -/
theorem map_modifySlot {α : Type} {f : Slot → α} (hf : ∀ m s, f (withError m s) = f s) (e : Engine)
    (index : Nat) (message : Option String) :
    (e.modifySlot index (withError message)).slots.map f = e.slots.map f := by
  refine List.ext_getElem? fun i => ?_
  unfold modifySlot
  rw [List.getElem?_map, List.getElem?_map, List.getElem?_modify]
  cases e.slots[i]? with
  | none => rfl
  | some s =>
    by_cases h : index = i
    · simp [h, hf]
    · simp [h]

/-- A session that switched nothing off leaves the steps enabled or not, as before. -/
theorem map_enabled_absorb (e : Engine) (index : Nat) {s : Session} (h : s.disabled = []) :
    (e.absorb index s).slots.map Slot.enabled = e.slots.map Slot.enabled := by
  refine List.ext_getElem? fun i => ?_
  rw [List.getElem?_map, List.getElem?_map, getElem?_absorb, Option.map_map, h]
  cases e.slots[i]? with
  | none => rfl
  | some t => simp

/-! ## Passing over disabled steps -/

/-- The next enabled step from an index on, when there is one, and the engine that reached it. -/
def reach (e : Engine) (index : Nat) : Option (Nat × Slot) × Engine :=
  e.passDisabled e.slots.length index (e.slots.drop index)

/-- Nothing but the desk and the current index differs, and the desk is steady. -/
def Idles (e e' : Engine) : Prop :=
  ∃ d current, e' = { e with desk := d, current := current } ∧ e.desk.Steady d

theorem Idles.trans {e e' e'' : Engine} (h : e.Idles e') (h' : e'.Idles e'') : e.Idles e'' := by
  obtain ⟨d, current, rfl, hd⟩ := h
  obtain ⟨d', current', rfl, hd'⟩ := h'
  exact ⟨d', current', rfl, hd.trans hd'⟩

theorem Idles.slots_eq {e e' : Engine} (h : e.Idles e') : e'.slots = e.slots := by
  obtain ⟨d, current, rfl, -⟩ := h
  rfl

/-- The engine that has passed over a disabled step at an index. -/
def passed (e : Engine) (total index : Nat) (s : Slot) : Engine :=
  { e with
    current := index
    desk := e.desk.debug engineSource
      ("[" ++ toString (index + 1) ++ "/" ++ toString total ++ "] " ++ s.name ++ " (disabled)") }

theorem idles_passed (e : Engine) (total index : Nat) (s : Slot) :
    e.Idles (e.passed total index s) :=
  ⟨_, _, rfl, Desk.steady_logged _ _ _ _⟩

theorem passDisabled_of_enabled (e : Engine) (total index : Nat) {s : Slot} (rest : List Slot)
    (h : s.enabled = true) :
    e.passDisabled total index (s :: rest) = (some (index, s), { e with current := index }) := by
  rw [passDisabled]
  exact if_pos h

theorem passDisabled_of_disabled (e : Engine) (total index : Nat) {s : Slot} (rest : List Slot)
    (h : ¬ s.enabled = true) :
    e.passDisabled total index (s :: rest) =
      (e.passed total index s).passDisabled total (index + 1) rest := by
  rw [passDisabled]
  exact if_neg h

/-- Passing over disabled steps is idle, and finds the first step that is enabled. -/
theorem passDisabled_spec (e : Engine) (total index : Nat) (rest : List Slot) :
    e.Idles (e.passDisabled total index rest).2 ∧
      match (e.passDisabled total index rest).1 with
      | none => ∀ s ∈ rest, s.enabled = false
      | some (j, s) => s.enabled = true ∧ (e.passDisabled total index rest).2.current = j ∧
          ∃ front back, rest = front ++ s :: back ∧ j = index + front.length ∧
            ∀ t ∈ front, t.enabled = false := by
  induction rest generalizing e index with
  | nil => exact ⟨⟨e.desk, e.current, rfl, .refl _⟩, by simp [passDisabled]⟩
  | cons s rest ih =>
    by_cases hs : s.enabled = true
    · rw [passDisabled_of_enabled e total index rest hs]
      exact ⟨⟨e.desk, index, rfl, .refl _⟩, hs, rfl, [], rest, rfl, rfl, by simp⟩
    · rw [passDisabled_of_disabled e total index rest hs]
      obtain ⟨hidles, hfound⟩ := ih (e.passed total index s) (index + 1)
      refine ⟨(e.idles_passed total index s).trans hidles, ?_⟩
      generalize (e.passed total index s).passDisabled total (index + 1) rest = p at hfound ⊢
      obtain ⟨_ | ⟨j, t⟩, e'⟩ := p
      · simpa [hs] using hfound
      · -- The disabled step joins those in front of the step that was found.
        obtain ⟨ht, hcurrent, front, back, rfl, hj, hfront⟩ := hfound
        refine ⟨ht, hcurrent, s :: front, back, rfl, ?_, ?_⟩
        · rw [hj, List.length_cons]
          omega
        · simpa [hs] using hfront

/-- When no enabled step is reached, none of the steps from the index on is enabled. -/
theorem reach_none {e e' : Engine} {index : Nat} (h : e.reach index = (none, e')) :
    e.Idles e' ∧ ∀ i s, index ≤ i → e.slots[i]? = some s → s.enabled = false := by
  have hspec := e.passDisabled_spec e.slots.length index (e.slots.drop index)
  rw [show e.passDisabled e.slots.length index (e.slots.drop index) = (none, e') from h] at hspec
  refine ⟨hspec.1, fun i s hi hs => hspec.2 s ?_⟩
  have hdrop : (e.slots.drop index)[i - index]? = some s := by
    rw [List.getElem?_drop, Nat.add_sub_cancel' hi]
    exact hs
  exact List.mem_of_getElem? hdrop

/-- The step that is reached is the first enabled one from the index on. -/
theorem reach_some {e e' : Engine} {index j : Nat} {s : Slot}
    (h : e.reach index = (some (j, s), e')) :
    e.Idles e' ∧ e'.current = j ∧ index ≤ j ∧ e.slots[j]? = some s ∧ s.enabled = true ∧
      ∀ i t, index ≤ i → i < j → e.slots[i]? = some t → t.enabled = false := by
  have hspec := e.passDisabled_spec e.slots.length index (e.slots.drop index)
  rw [show e.passDisabled e.slots.length index (e.slots.drop index) = (some (j, s), e') from h]
    at hspec
  obtain ⟨hidle, hs, hcurrent, front, back, hrest, hj, hfront⟩ := hspec
  have hget : ∀ k, e.slots[index + k]? = (front ++ s :: back)[k]? := fun k => by
    rw [← hrest, List.getElem?_drop]
  refine ⟨hidle, hcurrent, by omega, ?_, hs, fun i t hi hij ht => ?_⟩
  · rw [hj, hget]
    simp
  · obtain ⟨k, rfl⟩ := Nat.exists_eq_add_of_le hi
    rw [hget, List.getElem?_append_left (by omega)] at ht
    exact hfront t (List.mem_of_getElem? ht)

/-- Reaching a step leaves the slots alone, and the step stands in them. -/
theorem slots_of_reach {e e' : Engine} {index j : Nat} {s : Slot}
    (h : e.reach index = (some (j, s), e')) :
    e'.slots = e.slots ∧ index ≤ j ∧ e'.slots[j]? = some s ∧ s.enabled = true := by
  obtain ⟨⟨d, current, hidle, -⟩, -, hle, hslot, hs, -⟩ := reach_some h
  have hslots : e'.slots = e.slots := by rw [hidle]
  exact ⟨hslots, hle, hslots ▸ hslot, hs⟩

/-- An enabled step at the index is reached at once. -/
theorem reach_of_enabled {e : Engine} {index : Nat} {s : Slot} (h : e.slots[index]? = some s)
    (hs : s.enabled = true) : e.reach index = (some (index, s), { e with current := index }) := by
  obtain ⟨hi, hget⟩ := List.getElem?_eq_some_iff.mp h
  unfold reach
  rw [List.drop_eq_getElem_cons hi, hget]
  exact passDisabled_of_enabled e _ index _ hs

/-- Beyond the last step nothing is reached. -/
theorem reach_of_length_le {e : Engine} {index : Nat} (h : e.slots.length ≤ index) :
    e.reach index = (none, e) := by
  unfold reach
  rw [List.drop_eq_nil_of_le h]
  rfl

end Engine

/-! ## Visits -/

namespace Visit

/-- Announcing a step and expanding its templates is idle. -/
theorem idles_readied (v : Visit) : v.before.Idles v.readied.2 :=
  ⟨_, v.before.current, rfl, (Desk.steady_logged _ _ _ _).trans
    (Engine.quiet_expandWork _ _ _).steady⟩

/-- The engine after an attempt: nothing was attempted, the templates could not be expanded, or it
has absorbed a session. -/
theorem after_cases (v : Visit) :
    v.after = v.before ∨ v.after = v.readied.2 ∨
      ∃ work s, v.after = v.readied.2.absorb v.index s ∧ (v.session work).Kept s := by
  by_cases h : v.attempted = true
  · unfold after
    rw [v.outcome_eq h]
    split
    · exact .inr (.inl rfl)
    · next work _ => exact .inr (.inr ⟨work, _, rfl, kept_guarded _ work⟩)
  · unfold after outcome
    rw [if_neg h]
    exact .inl rfl

/-- An attempt moves the step of the visit only. -/
theorem moved_after (v : Visit) : v.before.Moved [v.index] v.after := by
  have hready : v.before.Moved [] v.readied.2 := .of_eq rfl rfl rfl rfl
  obtain h | h | ⟨work, s, h, hkept⟩ := v.after_cases
  · exact h ▸ (Engine.Moved.refl _).mono (List.nil_subset _)
  · exact h ▸ hready.mono (List.nil_subset _)
  · exact h ▸ hready.trans (Engine.moved_absorb _ v.index s hkept.hooked)

/-- No note is taken during an attempt. -/
theorem steady_after (v : Visit) : v.before.desk.Steady v.after.desk := by
  obtain ⟨d, current, hready, hd⟩ := v.idles_readied
  have hdesk : v.readied.2.desk = d := by rw [hready]
  obtain h | h | ⟨work, s, h, hkept⟩ := v.after_cases
  · exact h ▸ .refl _
  · rw [h, hdesk]
    exact hd
  · rw [h]
    exact (hdesk ▸ hd).trans hkept.desk

/-- No failure is kept during an attempt. -/
theorem firstError_after (v : Visit) : v.after.firstError = v.before.firstError := by
  obtain h | h | ⟨work, s, h, -⟩ := v.after_cases
  · rw [h]
  · rw [h]
    rfl
  · rw [h]
    rfl

theorem moved_noted (v : Visit) : v.before.Moved [v.index] v.noted := by
  unfold noted
  split
  · exact (v.moved_after.trans (Engine.moved_modifySlot _ v.index _)).mono (by simp)
  · exact v.moved_after

/-- A visit moves the step of the visit only. -/
theorem moved_settled (v : Visit) : v.before.Moved [v.index] v.settled := by
  cases h : v.broken
  · obtain ⟨d, hd, -⟩ := v.settled_eq h
    rw [hd]
    exact v.moved_noted.trans (.of_eq rfl rfl rfl rfl)
  · rw [v.settled_of_broken h]
    exact v.moved_after

/-- A visit that did not break the run off gains one note. -/
theorem gains_settled (v : Visit) (h : v.broken = false) :
    v.before.desk.Gains v.settled.desk (v.before.notes [v.notice]) := by
  obtain ⟨d, hd, hgains⟩ := v.settled_eq h
  rw [hd, ← Engine.notes_congr v.moved_after.observer]
  exact v.steady_after.gain hgains

/-- The first failure stays; the failure of the visit is kept when there was none. -/
theorem firstError_settled (v : Visit) (h : v.broken = false) :
    v.settled.firstError = v.before.firstError.or (if v.ok then none else some v.summary) := by
  obtain ⟨d, hd, -⟩ := v.settled_eq h
  rw [hd, ← v.firstError_after]

/-- The step of a visit cannot be made ready exactly when one of its templates may hold tokens and
the user cannot be found out. -/
theorem readied_eq_error_iff (v : Visit) (f : Fault) :
    v.readied.1 = .error f ↔
      (∃ t ∈ v.slot.work.templateTexts, Template.mayHoldTokens t = true) ∧
        v.before.desk.userName = .error f := by
  have huser := (Desk.steady_logged v.before.desk .info engineSource
    ("[" ++ toString (v.index + 1) ++ "/" ++ toString v.before.slots.length ++ "] "
      ++ v.slot.name)).userName
  rw [← huser]
  exact Engine.expandWork_eq_error_iff ..

/-- A fault that is no loss of control gets out of a visit only when the templates of the step
cannot be expanded. -/
theorem result_eq_error_iff (v : Visit) {f : Fault} (hf : f.isControl = false) :
    v.result = .error f ↔ v.attempted = true ∧ v.readied.1 = .error f := by
  unfold result
  by_cases h : v.attempted = true
  · rw [v.outcome_eq h]
    rcases hr : v.readied.1 with g | work
    · simp [h]
    · rcases hg : runIn (v.session work) (Engine.guarded work) with ⟨g | ok, t⟩
      · have hcontrol := isControl_of_guarded hg
        simp only [hg, Except.error.injEq, reduceCtorEq, and_false, iff_false]
        rintro rfl
        rw [hf] at hcontrol
        cases hcontrol
      · simp [hg]
  · unfold outcome
    rw [if_neg h]
    simp only [Except.error.injEq, h]
    constructor
    · rintro rfl
      cases hf
    · simp

/-- Where an action is made ready, an action is attempted. -/
theorem action_of_readied {v : Visit} {a : Action} {work : Work} (h : v.slot.work = .action a)
    (hw : v.readied.1 = .ok work) : ∃ a', work = .action a' := by
  have hexpand : (Engine.expandWork v.slot.work _ _).1 = .ok work := hw
  rw [h] at hexpand
  exact Engine.expandWork_action hexpand

/-- The attempt of an action switches nothing off. -/
theorem map_enabled_after {v : Visit} {a : Action} (h : v.slot.work = .action a) :
    v.after.slots.map Slot.enabled = v.before.slots.map Slot.enabled := by
  by_cases ha : v.attempted = true
  · unfold after
    rw [v.outcome_eq ha]
    cases hw : v.readied.1 with
    | error f => rfl
    | ok work =>
      obtain ⟨a', rfl⟩ := action_of_readied h hw
      exact Engine.map_enabled_absorb v.readied.2 v.index (StepM.disabled_guarded _ a')
  · unfold after outcome
    rw [if_neg ha]

/-- Settling a visit changes at most the last error of a slot. -/
theorem map_settled {α : Type} {f : Slot → α} (hf : ∀ m s, f (Engine.withError m s) = f s)
    (v : Visit) : v.settled.slots.map f = v.after.slots.map f := by
  have hnoted : v.noted.slots.map f = v.after.slots.map f := by
    unfold noted
    split
    · exact v.after.map_modifySlot hf v.index _
    · rfl
  cases hb : v.broken with
  | false =>
    obtain ⟨d, hd, -⟩ := v.settled_eq hb
    rw [hd, ← hnoted]
  | true => rw [v.settled_of_broken hb]

/-- Settling a visit switches nothing off. -/
theorem map_enabled_settled (v : Visit) :
    v.settled.slots.map Slot.enabled = v.after.slots.map Slot.enabled :=
  v.map_settled fun _ _ => rfl

end Visit

end Deskwork
