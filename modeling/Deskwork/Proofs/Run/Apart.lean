/-
# Expansion Apart from the Slot

A step is carried out with its templates expanded in its slot, and then what stood in the fields is
written back. The outcome is the same as when the templates are expanded in a copy and the slot is
left alone (`executeOne_eq`): nothing that reads the slots in between can tell the two apart, and
the writing back leaves no trace.
-/
import Deskwork.Proofs.Run.Expansion

namespace Deskwork

open StepM

namespace Engine

/-! ## Absorbing a session -/

/-- Switching off the slots at some positions changes whether each slot is enabled, and nothing
else. -/
theorem getElem?_disableAll (positions : List Int) (slots : List Slot) (i : Nat) :
    (positions.foldl disableAt slots)[i]? = (slots[i]?).map fun s =>
      { s with enabled := s.enabled && !positions.any fun p => p.toNat - 1 = i } := by
  induction positions generalizing slots with
  | nil => simp
  | cons p positions ih =>
    rw [List.foldl_cons, ih]
    unfold disableAt
    rw [List.getElem?_modify]
    by_cases h : p.toNat - 1 = i
    · simp [h, Function.comp_def]
    · simp [h]

theorem length_disableAll (positions : List Int) (slots : List Slot) :
    (positions.foldl disableAt slots).length = slots.length := by
  induction positions generalizing slots with
  | nil => rfl
  | cons p positions ih => rw [List.foldl_cons, ih, disableAt, List.length_modify]

/-- After a session, the slot at its index has the progress of the session with one more visit, and
the slots that the step disabled are switched off. -/
theorem getElem?_absorb (e : Engine) (index : Nat) (s : Session) (i : Nat) :
    (e.absorb index s).slots[i]? = (e.slots[i]?).map fun t =>
      { t with
        enabled := t.enabled && !s.disabled.any fun p => p.toNat - 1 = i
        progress := if index = i then { s.progress with visits := s.progress.visits + 1 }
          else t.progress } := by
  unfold absorb
  dsimp only
  rw [getElem?_disableAll, List.getElem?_modify]
  by_cases h : index = i
  · simp [h, Function.comp_def]
  · simp [h]

/-! ## Work in a slot -/

section

variable {e : Engine} {index : Nat} {s : Slot}

/-- Putting its own work into a slot changes nothing. -/
theorem modifySlot_work_self (h : e.slots[index]? = some s) :
    (e.modifySlot index fun t => { t with work := s.work }) = e := by
  have hslots : (e.slots.modify index fun t => { t with work := s.work }) = e.slots := by
    refine List.ext_getElem? fun i => ?_
    rw [List.getElem?_modify]
    by_cases hi : index = i
    · subst hi
      rw [h]
      simp
    · simp [hi]
  unfold modifySlot
  rw [hslots]

/-- Putting work with the same tag into a slot keeps the tags of all slots. -/
theorem map_tag_modifySlot (h : e.slots[index]? = some s) {work : Work}
    (htag : work.tag = s.work.tag) :
    ((e.modifySlot index fun t => { t with work := work }).slots.map fun t => t.work.tag) =
      e.slots.map fun t => t.work.tag := by
  refine List.ext_getElem? fun i => ?_
  unfold modifySlot
  rw [List.getElem?_map, List.getElem?_map, List.getElem?_modify]
  by_cases hi : index = i
  · subst hi
    rw [h]
    simp [htag]
  · simp [hi]

/-- Absorbing a session in a slot with other work, and then restoring the work, comes to absorbing
it in the slot as it was. -/
theorem restore_absorb (h : e.slots[index]? = some s) {work : Work}
    {originals : List (String × Template.Content)} (hrestore : work.restore originals = s.work)
    (t : Session) :
    (((e.modifySlot index fun t => { t with work := work }).absorb index t).modifySlot index
      fun t => { t with work := t.work.restore originals }) = e.absorb index t := by
  have hslots : (((e.modifySlot index fun t => { t with work := work }).absorb index t).slots.modify
      index fun t => { t with work := t.work.restore originals }) = (e.absorb index t).slots := by
    refine List.ext_getElem? fun i => ?_
    rw [List.getElem?_modify, getElem?_absorb, getElem?_absorb]
    unfold modifySlot
    rw [List.getElem?_modify]
    by_cases hi : index = i
    · subst hi
      rw [h]
      simp [hrestore]
    · simp [hi]
  have hrest : ∀ slots, ({ ((e.modifySlot index fun t => { t with work := work }).absorb index t)
      with slots := slots } : Engine) = { e.absorb index t with slots := slots } := fun _ => rfl
  rw [modifySlot, hslots, hrest]

end

/-! ## One step -/

/-- The step at an index carried out with its templates expanded in a copy. -/
def executeApart (e : Engine) (index : Nat) (s : Slot) : Except Fault Bool × Engine :=
  let e := e.info ("[" ++ toString (index + 1) ++ "/" ++ toString e.slots.length ++ "] " ++ s.name)
  let (work, d) := expandWork s.work e.desk e.context.bindings
  let e := { e with desk := d }
  match work with
  | .error f => (.error f, e)
  | .ok work =>
    let session := s.session work e.desk e.context (some (e.slots.map fun s => s.work.tag))
      e.running (index + 1 : Nat)
    let (r, session) := StepM.runIn session (guarded work)
    (r, e.absorb index session)

/-- Carrying out the step that stands at an index in place is carrying it out apart: the templates
that were expanded in the slot stand there again, however the step ended. -/
theorem executeOne_eq {e : Engine} {index : Nat} {s : Slot} (h : e.slots[index]? = some s) :
    e.executeOne index s = e.executeApart index s := by
  unfold executeOne executeApart expandWork
  dsimp only
  generalize he : e.info _ = e'
  have hslots : e'.slots[index]? = some s := by
    rw [← he]
    exact h
  have htag : (s.work.expand e'.context.bindings e'.desk).2.1.tag = s.work.tag :=
    s.work.expand_induction (P := fun w => w.tag = s.work.tag)
      (fun n c w hw => (w.tag_write n c).trans hw) rfl e'.desk
  rcases hr : s.work.expand e'.context.bindings e'.desk with ⟨f | originals, work, d⟩
  · -- Nothing was expanded, so the slot is as it was.
    have hwork : work = s.work := by
      have := Work.expand_of_error (w := s.work) (f := f) (congrArg Prod.fst hr)
      rw [hr] at this
      exact this
    rw [hwork]
    exact Prod.ext rfl (modifySlot_work_self (e := { e' with desk := d }) hslots)
  · rw [hr] at htag
    have hkinds := map_tag_modifySlot (e := { e' with desk := d }) hslots htag
    have hrestored := restore_absorb (e := { e' with desk := d }) hslots (Work.restore_expand hr)
    dsimp only [Except.map]
    rw [hkinds]
    exact Prod.ext rfl (hrestored _)

end Engine

end Deskwork
