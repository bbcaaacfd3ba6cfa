/-
# How Visits Steer a Run

A run is steered by the marks of its steps: the transfer that a step requests, and how often the
loop that it ends was repeated. The visit of an action marks no step but its own, and what the
attempt can do to the marks of that step is told case by case (`comes`). Settling the visit leaves
the marks alone.
-/
import Deskwork.Proofs.Run.Authored
import Deskwork.Proofs.Session.Marks

namespace Deskwork

open StepM

/-- The marks by which a step steers the run: the transfer that it requests, and its count of
repetitions. -/
def Slot.mark (s : Slot) : Option Signal × Int := (s.progress.control, s.progress.iteration)

/-- The reason not to know the user has nothing to do with where control goes. -/
theorem Desk.isRouting_of_userName {d : Desk} {f : Fault} (h : d.userName = .error f) :
    f.isRouting = false := by
  unfold userName at h
  split at h
  · cases h
  · next why _ =>
    split at h
    · cases h
    · obtain rfl := Except.error.inj h
      exact Fault.isRouting_ofForeign why

namespace Visit

variable {v : Visit} {a : Action}

/-! ## What an attempt comes to -/

/-- What the attempt of an action comes to in a visit. -/
inductive Comes (v : Visit) (a : Action) : Prop where
  /-- The templates cannot be expanded, and nothing is marked. -/
  | unready {f : Fault} (result : v.result = .error f) (outside : f.isRouting = false)
      (slots : v.after.slots = v.before.slots)
  /-- With its templates expanded the action is attempted, and its step is marked. -/
  | tried (a' : Action) (p : Progress) (ready : v.readied.1 = .ok (.action a'))
      (steering : a'.steering = a.steering) (references : a'.references = a.references)
      (marks : Marks a' (v.session (.action a')) v.result p)
      (slots : v.after.slots = v.before.slots.modify v.index fun s =>
        { s with progress := { p with visits := p.visits + 1 } })

/-- An attempted action comes to one of these. -/
theorem comes (h : v.slot.work = .action a) (ha : v.attempted = true) : v.Comes a := by
  have houtcome := v.outcome_eq ha
  cases hready : v.readied.1 with
  | error f =>
    rw [hready] at houtcome
    have hresult : v.result = .error f := congrArg Prod.fst houtcome
    have hafter : v.after = v.readied.2 := congrArg Prod.snd houtcome
    obtain ⟨-, huser⟩ := (v.readied_eq_error_iff f).mp hready
    refine .unready hresult (Desk.isRouting_of_userName huser) ?_
    rw [hafter]
    rfl
  | ok work =>
    have hexpand : (Engine.expandWork v.slot.work _ _).1 = .ok work := hready
    rw [h] at hexpand
    obtain ⟨a', rfl, hsteering, hreferences⟩ := Engine.steering_of_expandWork hexpand
    rw [hready] at houtcome
    dsimp only at houtcome
    have hmarks := marks_guarded a' (v.session (.action a'))
    have hresult : v.result = _ := congrArg Prod.fst houtcome
    have hafter : v.after = _ := congrArg Prod.snd houtcome
    refine .tried a' _ hready hsteering hreferences (hresult ▸ hmarks) ?_
    -- An action switches nothing off, so the session shows in the step of the visit only.
    have hdisabled := disabled_guarded (v.session (.action a')) a'
    rw [hafter]
    unfold Engine.absorb
    dsimp only
    rw [hdisabled]
    rfl

/-- Without an attempt nothing is marked. -/
theorem after_of_not_attempted (h : v.attempted = false) : v.after = v.before := by
  unfold after outcome
  rw [h]
  rfl

/-! ## Marks -/

/-- A visit changes the marks of its own step only. -/
theorem mark_after_of_ne {i : Nat} (h : i ≠ v.index) :
    (v.after.slots[i]?).map Slot.mark = (v.before.slots[i]?).map Slot.mark := by
  have hprogress := v.moved_after.progress_eq (i := i) (by simpa using h)
  have hmark (slot : Option Slot) : slot.map Slot.mark =
      (slot.map Slot.progress).map fun p => (p.control, p.iteration) := by
    rw [Option.map_map]
    rfl
  rw [hmark, hmark, hprogress]

/-- Settling a visit leaves the marks of all steps alone. -/
theorem map_mark_settled (v : Visit) :
    v.settled.slots.map Slot.mark = v.after.slots.map Slot.mark :=
  v.map_settled fun _ _ => rfl

/-- What the step of a visit requests and counts afterwards, when it was attempted. -/
theorem mark_after_of_slots {p : Progress} (hslot : v.before.slots[v.index]? = some v.slot)
    (h : v.after.slots = v.before.slots.modify v.index fun s =>
      { s with progress := { p with visits := p.visits + 1 } }) :
    (v.after.slots[v.index]?).map Slot.mark = some (p.control, p.iteration) := by
  rw [h, List.getElem?_modify, hslot]
  simp [Slot.mark]

/-- What the step requests is what was marked. -/
theorem request_of_slots {p : Progress} (hslot : v.before.slots[v.index]? = some v.slot)
    (h : v.after.slots = v.before.slots.modify v.index fun s =>
      { s with progress := { p with visits := p.visits + 1 } }) : v.request = p.control := by
  have hmark := mark_after_of_slots hslot h
  unfold request
  rw [Option.map_eq_some_iff] at hmark
  obtain ⟨s, hs, hsame⟩ := hmark
  rw [hs]
  exact congrArg Prod.fst hsame

end Visit

end Deskwork
