/-
# Runs Keep What Was Authored

While a step is carried out its templates stand expanded in its slot. When it has been carried out
the slot holds the step as it was authored, whether the step succeeded, failed, raised a fault or
lost control, and whatever the templates were expanded to this time (`map_asNew_executeOne`). So a
run of actions leaves the data of every step as they were, however often each of them was carried
out and whatever ended the run (`run_preserves_authored`).
-/
import Deskwork.Proofs.Run.Independence

namespace Deskwork

/-! ## Slots as they were authored -/

/-- Slots that are authored in the same way have the same data. -/
theorem map_toValue_of_map_asNew {slots slots' : List Slot}
    (h : slots'.map Slot.asNew = slots.map Slot.asNew) :
    slots'.map Slot.toValue = slots.map Slot.toValue := by
  have hvalue (slots : List Slot) :
      slots.map Slot.toValue = (slots.map Slot.asNew).map Slot.toValue := by
    rw [List.map_map]
    rfl
  rw [hvalue slots', h, ← hvalue slots]

/-- They are as many. -/
theorem length_of_map_asNew {slots slots' : List Slot}
    (h : slots'.map Slot.asNew = slots.map Slot.asNew) : slots'.length = slots.length := by
  have hlength := congrArg List.length h
  rwa [List.length_map, List.length_map] at hlength

/-- Each of them does the same as the one at its index, and is enabled or not like it. -/
theorem exists_of_map_asNew {slots slots' : List Slot}
    (h : slots'.map Slot.asNew = slots.map Slot.asNew) {i : Nat} {t : Slot}
    (ht : slots'[i]? = some t) : ∃ s, slots[i]? = some s ∧ t.work = s.work ∧ t.enabled = s.enabled := by
  have hi := congrArg (·[i]?) h
  simp only [List.getElem?_map, ht] at hi
  obtain ⟨s, hs, hst⟩ := Option.map_eq_some_iff.mp hi.symm
  have hwork : s.asNew.work = t.asNew.work := congrArg Slot.work hst
  have henabled : s.asNew.enabled = t.asNew.enabled := congrArg Slot.enabled hst
  exact ⟨s, hs, hwork.symm, henabled.symm⟩

/-! ## Visits -/

namespace Visit

/-- A step that stands in the slots is carried out to the result of its visit. -/
theorem executeOne_eq {v : Visit} (h : v.before.slots[v.index]? = some v.slot)
    (ha : v.attempted = true) : v.before.executeOne v.index v.slot = (v.result, v.after) := by
  have houtcome : v.outcome = v.before.executeApart v.index v.slot := if_pos ha
  rw [Engine.executeOne_eq h, ← houtcome]
  rfl

/-- Carrying out an action keeps every step as it was authored. -/
theorem map_asNew_after {v : Visit} {a : Action} (h : v.slot.work = .action a) :
    v.after.slots.map Slot.asNew = v.before.slots.map Slot.asNew :=
  v.moved_after.map_asNew (map_enabled_after h)

/-- Carrying out an action in place keeps every step as it was authored, however it ends. -/
theorem map_asNew_executeOne {v : Visit} {a : Action} (h : v.slot.work = .action a)
    (hslot : v.before.slots[v.index]? = some v.slot) (ha : v.attempted = true) :
    (v.before.executeOne v.index v.slot).2.slots.map Slot.asNew =
      v.before.slots.map Slot.asNew := by
  rw [executeOne_eq hslot ha]
  exact map_asNew_after h

/-- So does settling the visit. -/
theorem map_asNew_settled {v : Visit} {a : Action} (h : v.slot.work = .action a) :
    v.settled.slots.map Slot.asNew = v.before.slots.map Slot.asNew :=
  v.moved_settled.map_asNew (v.map_enabled_settled.trans (map_enabled_after h))

end Visit

/-! ## Runs -/

namespace Passage

variable {index : Nat} {success : Bool} {e e' : Engine} {vs : List Visit} {ending : Ending}

/-- Whenever an action is reached, every step is as it was authored. -/
theorem map_asNew_before (h : Passage index success e vs ending e') (hacts : e.ActsOnly) :
    ∀ v ∈ vs, (∃ a, v.slot.work = .action a) ∧
      v.before.slots.map Slot.asNew = e.slots.map Slot.asNew := by
  let Same (e' : Engine) : Prop := e'.ActsOnly ∧ e'.slots.map Slot.asNew = e.slots.map Slot.asNew
  have hidle {f f' : Engine} (hf : f.Idles f') (h : Same f) : Same f' := by
    unfold Same Engine.ActsOnly
    rw [hf.slots_eq]
    exact h
  have hvisit (v : Visit) (hslot : v.before.slots[v.index]? = some v.slot)
      (_ : v.slot.enabled = true) (hbefore : Same v.before) : Same v.settled := by
    obtain ⟨hacts, hsame⟩ := hbefore
    obtain ⟨a, ha⟩ := hacts v.slot (List.mem_of_getElem? hslot)
    exact ⟨hacts.of_moved v.moved_settled, (Visit.map_asNew_settled ha).trans hsame⟩
  intro v hv
  obtain ⟨⟨hacts, hsame⟩, hslot, -⟩ := (h.invariant hidle hvisit ⟨hacts, rfl⟩).2 v hv
  exact ⟨hacts v.slot (List.mem_of_getElem? hslot), hsame⟩

end Passage

namespace Engine

/-- The steps that an engine holds when it is asked to run some steps, or its own: while it is
running it refuses. -/
def held (e : Engine) (slots : Option (List Slot)) : List Slot :=
  if e.running then e.slots else slots.getD e.slots

/-- In a run that has begun, every visit finds the steps as they were authored. -/
theorem map_asNew_trail {e : Engine} (hacts : e.ActsOnly) :
    ∀ v ∈ e.trail, (∃ a, v.slot.work = .action a) ∧
      v.before.slots[v.index]? = some v.slot ∧
      v.before.slots.map Slot.asNew = e.slots.map Slot.asNew := by
  intro v hv
  cases hprepare : e.prepare.1 with
  | some why =>
    rw [(trail_of_problem hprepare).1] at hv
    cases hv
  | none =>
    have hpassage := passage_trail hprepare
    obtain ⟨haction, hsame⟩ := hpassage.map_asNew_before hacts.prepare v hv
    have hcleared : e.prepare.2.slots.map Slot.asNew = e.slots.map Slot.asNew := by
      rw [slots_prepare hprepare, map_asNew_clearedSlots]
    exact ⟨haction, (hpassage.visited v hv).1, hsame.trans hcleared⟩

/-- What is left of a run of actions is authored as before. -/
theorem Left.map_asNew {e e' : Engine} {slots : List Slot} (h : e.Left slots e') :
    e'.slots.map Slot.asNew = slots.map Slot.asNew := by
  refine List.ext_getElem? fun i => ?_
  rw [List.getElem?_map, List.getElem?_map]
  cases ht : e'.slots[i]? with
  | none =>
    have hs : slots[i]? = none := by
      rw [List.getElem?_eq_none_iff] at ht ⊢
      have := h.length
      omega
    rw [hs]
  | some t =>
    obtain ⟨s, hs, hlater, hsame⟩ := h.slots ht
    rw [hs]
    simp only [Option.map_some, Slot.asNew]
    rw [hsame, hlater.work, hlater.continueOnError]

/-- A run of its own steps is a run of the same steps given to it. -/
theorem run_eq_run_some {e : Engine} (h : e.running = false) (slots : Option (List Slot)) :
    e.run slots = e.run (some (e.held slots)) := by
  unfold held
  rw [h]
  cases slots with
  | none => rfl
  | some given => rfl

end Engine

/-- A run of actions leaves every step as it was authored, and with it the data of the step: the
texts with tokens, the lists of texts, the flags. This is so at the end, whatever ended the run, and
in a run that is not refused it is so each time a step has been carried out. -/
theorem run_preserves_authored {e : Engine} {slots : Option (List Slot)}
    (hacts : ∀ s ∈ e.held slots, ∃ a, s.work = .action a) :
    (e.run slots).2.slots.map Slot.toValue = (e.held slots).map Slot.toValue ∧
      (e.run slots).2.slots.map Slot.asNew = (e.held slots).map Slot.asNew ∧
      (e.running = false → ∀ v ∈ (e.begun slots).trail, v.attempted = true →
        (v.before.executeOne v.index v.slot).2.slots.map Slot.toValue =
          (e.held slots).map Slot.toValue) := by
  cases hrunning : e.running with
  | true =>
    have hheld : e.held slots = e.slots := by
      unfold Engine.held
      rw [hrunning]
      rfl
    have hrefused : (e.run slots).2.slots = e.slots := by
      unfold Engine.run
      rw [hrunning]
      rfl
    rw [hrefused, hheld]
    exact ⟨rfl, rfl, fun h => nomatch h⟩
  | false =>
    have hkept : (e.run slots).2.slots.map Slot.asNew = (e.held slots).map Slot.asNew := by
      rw [Engine.run_eq_run_some hrunning]
      exact (Engine.left_run hrunning hacts).map_asNew
    refine ⟨map_toValue_of_map_asNew hkept, hkept, fun _ v hv ha => ?_⟩
    have hheld : (e.begun slots).slots = e.held slots := by
      unfold Engine.held
      rw [hrunning]
      rfl
    have hbegun : (e.begun slots).ActsOnly := by
      intro s hs
      rw [hheld] at hs
      exact hacts s hs
    obtain ⟨⟨a, haction⟩, hslot, hsame⟩ := Engine.map_asNew_trail hbegun v hv
    refine map_toValue_of_map_asNew ?_
    rw [Visit.map_asNew_executeOne haction hslot ha, hsame, hheld]

/-- The slots of authored steps hold actions. -/
theorem actions_of_steps (steps : List Step) :
    ∀ s ∈ steps.map Slot.ofStep, ∃ a, s.work = .action a := by
  intro s hs
  obtain ⟨st, -, rfl⟩ := List.mem_map.mp hs
  exact ⟨st.action, rfl⟩

/-- Steps that double a number three times. -/
def doubling : List Step :=
  [⟨true, false, .assign ⟨"n", "1", .set⟩⟩, ⟨true, false, .loopStart ⟨""⟩⟩,
    ⟨true, false, .assign ⟨"n", "%n%", .add⟩⟩,
    ⟨true, false, .loopEnd ⟨2, .maxIterations, "", "", 3⟩⟩]

/-- An engine that doubles a number three times. -/
def doublingEngine : Engine := .new .blank (doubling.map .ofStep) false 100 .record

/-- The text that a visit was carried out with, if it was to change a variable. -/
def Visit.operand? (v : Visit) : Option String :=
  match v.readied.1 with
  | .ok (.action (.assign a)) => some a.operand
  | _ => none

/-- The text in the loop is expanded anew each time around, and still holds its token. -/
theorem run_preserves_authored_doubling :
    (doublingEngine.begun none).trail.filterMap Visit.operand? = ["1", "1", "2", "4"] ∧
      (doublingEngine.run none).2.slots.map Slot.toValue =
        (doublingEngine.held none).map Slot.toValue := by
  have hacts : ∀ s ∈ doublingEngine.held none, ∃ a, s.work = .action a := actions_of_steps doubling
  exact ⟨by decide +kernel, (run_preserves_authored hacts).1⟩

end Deskwork
