/-
# Runs Without Re-entry

Beside every run there is a calm one: the same steps, but none of them tries to run the engine again,
and neither does who watches. The calm run goes along with the other step by step (`echo_steps`): it
visits the same steps, which find the same, and but for the talk at the desk the engines are the same
before and after each of them. So attempts to run an engine that is running change nothing.
-/
import Deskwork.Proofs.Run.Whole
import Deskwork.Proofs.Session.Calm
import Mathlib.Data.List.Forall2

namespace Deskwork

open StepM

/-! ## Calm engines -/

/-- The slot whose work never tries to run its engine again. -/
def Slot.calm (s : Slot) : Slot := { s with work := s.work.calm }

/-- The one who watches, without attempts to run the engine again. -/
def Observer.calm : Observer → Observer
  | .reenter => .record
  | o => o

namespace Engine

/-- The engine at another desk, without attempts to run it again. -/
def calmAt (e : Engine) (d : Desk) : Engine :=
  { e with desk := d, slots := e.slots.map Slot.calm, observer := e.observer.calm }

/-- The engine without attempts to run it again. -/
def calm (e : Engine) : Engine := e.calmAt e.desk

/-- An engine goes along with another one: it is the same without attempts to run it again, but for
the talk at the desk. -/
def Echo (e f : Engine) : Prop := ∃ d, f = e.calmAt d ∧ d.hushed = e.desk.hushed

theorem echo_calm (e : Engine) : e.Echo e.calm := ⟨e.desk, rfl, rfl⟩

namespace Echo

variable {e f : Engine}

theorem hushed (h : e.Echo f) : f.desk.hushed = e.desk.hushed := by
  obtain ⟨d, rfl, hd⟩ := h
  exact hd

theorem slots (h : e.Echo f) : f.slots = e.slots.map Slot.calm := by
  obtain ⟨d, rfl, -⟩ := h
  rfl

theorem context (h : e.Echo f) : f.context = e.context := by
  obtain ⟨d, rfl, -⟩ := h
  rfl

theorem length (h : e.Echo f) : f.slots.length = e.slots.length := by
  rw [h.slots, List.length_map]

theorem getElem? (h : e.Echo f) (i : Nat) : f.slots[i]? = (e.slots[i]?).map Slot.calm := by
  rw [h.slots, List.getElem?_map]

/-- What does not look at the work reads the same from the slots. -/
theorem bind_slot {α : Type} (h : e.Echo f) {g : Slot → Option α} (hg : ∀ s, g s.calm = g s)
    (i : Nat) : (f.slots[i]?).bind g = (e.slots[i]?).bind g := by
  rw [h.getElem?, Option.bind_map]
  exact congrArg _ (funext hg)

/-- Engines go along with each other from one desk to the next. -/
theorem move (h : e.Echo f) {c d : Desk} (hd : d.hushed = c.hushed) :
    ({ e with desk := c } : Engine).Echo { f with desk := d } := by
  obtain ⟨_, rfl, -⟩ := h
  exact ⟨d, rfl, hd⟩

theorem log (h : e.Echo f) (level level' : Level) (source source' message message' : String) :
    ({ e with desk := e.desk.logged level source message } : Engine).Echo
      { f with desk := f.desk.logged level' source' message' } := by
  refine h.move ?_
  rw [Desk.hushed_logged, Desk.hushed_logged, h.hushed]

theorem record (h : e.Echo f) (event : Event) : (e.record event).Echo (f.record event) := by
  refine h.move ?_
  rw [← Desk.hushed_record, ← Desk.hushed_record e.desk, h.hushed]

theorem lastError (h : e.Echo f) (i : Nat) : f.lastError i = e.lastError i :=
  h.bind_slot (fun _ => rfl) i

theorem summary (h : e.Echo f) (i : Nat) (s : Slot) : f.summary i s.calm = e.summary i s := by
  unfold Engine.summary
  rw [h.lastError]
  show "#" ++ toString (i + 1) ++ " " ++ s.work.calm.name ++ _ ++ _ = _
  rw [Work.name_calm]
  rfl

theorem modifySlot (h : e.Echo f) (i : Nat) (message : Option String) :
    (e.modifySlot i (withError message)).Echo (f.modifySlot i (withError message)) := by
  obtain ⟨d, rfl, hd⟩ := h
  have hslots : (e.slots.map Slot.calm).modify i (withError message) =
      (e.slots.modify i (withError message)).map Slot.calm := by
    refine List.ext_getElem? fun k => ?_
    rw [List.getElem?_modify, List.getElem?_map, List.getElem?_map, List.getElem?_modify]
    cases e.slots[k]? with
    | none => rfl
    | some s =>
      by_cases hk : i = k
      · simp [hk, withError, Slot.calm]
      · simp [hk]
  refine ⟨d, ?_, hd⟩
  unfold Engine.modifySlot calmAt
  dsimp only
  rw [hslots]

theorem recordFailure (h : e.Echo f) (i : Nat) (s : Slot) :
    (e.recordFailure i s).Echo (f.recordFailure i s.calm) := by
  have hsummary := h.summary i s
  rw [Visit.recordFailure_eq, Visit.recordFailure_eq, hsummary]
  obtain ⟨d, rfl, hd⟩ := h
  exact ⟨d, rfl, hd⟩

theorem executedEvent (h : e.Echo f) (i : Nat) (s : Slot) (ok : Bool) :
    f.executedEvent i s.calm ok = e.executedEvent i s ok := by
  have hiteration : ((f.slots[i]?).map fun s => s.progress.iteration) =
      (e.slots[i]?).map fun s => s.progress.iteration := by
    rw [h.getElem?, Option.map_map]
    rfl
  unfold Engine.executedEvent
  rw [h.lastError, h.context, hiteration]
  show Event.executed i s.work.calm.tag ok _ _ (if s.work.calm.isLoopEnd then _ else _) = _
  rw [Work.tag_calm, Work.isLoopEnd_calm]

/-- Whoever watches is told of the same step. -/
theorem notifyStep (h : e.Echo f) (i : Nat) (s : Slot) (ok : Bool) :
    (e.notifyStep i s ok).Echo (f.notifyStep i s.calm ok) := by
  have htold := h.record (e.executedEvent i s ok)
  have hevent := h.executedEvent i s ok
  have hobserver : f.observer = e.observer.calm := by
    obtain ⟨d, rfl, -⟩ := h
    rfl
  unfold Engine.notifyStep
  rw [hevent, hobserver]
  dsimp only
  cases e.observer with
  | none => exact h
  | report => exact h
  | record => exact htold
  | raise => exact htold.log _ _ _ _ _ _
  | reenter =>
    -- The refusal and the note of the attempt are talk on one side only.
    refine htold.move (d := (f.record _).desk) ?_
    show _ = (((e.record _).refuse).desk.record (.rerun false)).hushed
    rw [Desk.hushed_record_of_talk _ rfl]
    unfold refuse warn Desk.warn
    rw [Desk.hushed_logged]
    exact htold.hushed

theorem loseControl (h : e.Echo f) (i : Nat) (s : Slot) (why : Fault) :
    (e.loseControl i s why).Echo (f.loseControl i s.calm why) := by
  unfold Engine.loseControl
  exact (((h.modifySlot i _).recordFailure i s).notifyStep i s false).log _ _ _ _ _ _

/-- The same transfer is followed. -/
theorem follow (h : e.Echo f) (i : Nat) (s : Slot) (success : Bool) :
    (f.follow i s.calm success).1 = (e.follow i s success).1 ∧
      (e.follow i s success).2.Echo (f.follow i s.calm success).2 := by
  have hcontrol := h.bind_slot (g := fun s => s.progress.control) (fun _ => rfl) i
  have hname : s.calm.name = s.name := s.work.name_calm
  unfold Engine.follow
  rw [hcontrol, h.length, hname]
  split
  · exact ⟨rfl, h⟩
  · split
    · exact ⟨rfl, h⟩
    · exact ⟨rfl, h⟩
    · split
      · exact ⟨rfl, h⟩
      · exact ⟨rfl, h⟩
    · split
      · exact ⟨rfl, h⟩
      · exact ⟨rfl, h⟩
    · exact ⟨rfl, h.log _ _ _ _ _ _⟩

/-- The outcome of a step is settled in the same way. -/
theorem settle (h : e.Echo f) (i : Nat) (s : Slot) (success : Bool) (r : Except Fault Bool) :
    (f.settle i s.calm success r).1 = (e.settle i s success r).1 ∧
      (e.settle i s success r).2.Echo (f.settle i s.calm success r).2 := by
  unfold Engine.settle
  rcases r with why | _ | _
  · dsimp only
    split
    · exact ⟨rfl, h.loseControl i s why⟩
    · exact ⟨rfl, h⟩
  · have hfailed := (h.notifyStep i s false).recordFailure i s
    dsimp only
    rw [show s.calm.continueOnError = s.continueOnError from rfl]
    split
    · exact ⟨rfl, hfailed⟩
    · exact ⟨rfl, hfailed.log _ _ _ _ _ _⟩
  · exact (h.notifyStep i s true).follow i s success

/-! ## Reaching a step -/

theorem passDisabled (h : e.Echo f) (total index : Nat) (rest : List Slot) :
    (f.passDisabled total index (rest.map Slot.calm)).1 =
        (e.passDisabled total index rest).1.map (fun p => (p.1, p.2.calm)) ∧
      (e.passDisabled total index rest).2.Echo
        (f.passDisabled total index (rest.map Slot.calm)).2 := by
  induction rest generalizing e f index with
  | nil => exact ⟨rfl, h⟩
  | cons s rest ih =>
    have hcurrent : ({ e with current := index } : Engine).Echo { f with current := index } := by
      obtain ⟨d, rfl, hd⟩ := h
      exact ⟨d, rfl, hd⟩
    rw [List.map_cons]
    by_cases hs : s.enabled = true
    · rw [passDisabled_of_enabled e _ _ _ hs,
        passDisabled_of_enabled f _ _ _ (show s.calm.enabled = true from hs)]
      exact ⟨rfl, hcurrent⟩
    · rw [passDisabled_of_disabled e _ _ _ hs,
        passDisabled_of_disabled f _ _ _ (show ¬ s.calm.enabled = true from hs)]
      exact ih (hcurrent.log _ _ _ _ _ _) (index + 1)

/-- The same step is reached, or none. -/
theorem reach (h : e.Echo f) (index : Nat) :
    f.reach index = ((e.reach index).1.map (fun p => (p.1, p.2.calm)), (f.reach index).2) ∧
      (e.reach index).2.Echo (f.reach index).2 := by
  obtain ⟨hfound, hreached⟩ :=
    h.passDisabled e.slots.length index (e.slots.drop index)
  unfold Engine.reach
  rw [h.length, h.slots, List.map_drop] at *
  exact ⟨Prod.ext hfound rfl, hreached⟩

/-! ## Absorbing a session -/

theorem absorb (h : e.Echo f) (i : Nat) {s t : Session} (hst : s.hushed = t.hushed) :
    (e.absorb i s).Echo (f.absorb i t) := by
  have hcontext : s.context = t.context :=
    show s.hushed.context = t.hushed.context by rw [hst]
  have hprogress : s.progress = t.progress :=
    show s.hushed.progress = t.hushed.progress by rw [hst]
  have hdisabled : s.disabled = t.disabled :=
    show s.hushed.disabled = t.hushed.disabled by rw [hst]
  have hdesk : s.desk.hushed = t.desk.hushed :=
    show s.hushed.desk = t.hushed.desk by rw [hst]
  have hslots : (f.absorb i t).slots = (e.absorb i s).slots.map Slot.calm := by
    refine List.ext_getElem? fun k => ?_
    rw [getElem?_absorb, List.getElem?_map, getElem?_absorb, h.getElem?, hprogress, hdisabled,
      Option.map_map, Option.map_map]
    rfl
  obtain ⟨d, rfl, -⟩ := h
  refine ⟨t.desk, ?_, hdesk.symm⟩
  have hsame : (e.calmAt d).absorb i t =
      { (e.absorb i s).calmAt t.desk with slots := ((e.calmAt d).absorb i t).slots } := by
    unfold Engine.absorb calmAt
    dsimp only
    rw [hcontext]
  rw [hsame, hslots]
  rfl

end Echo

end Engine

/-! ## Visits -/

/-- A visit goes along with another one: it is to the same step, but without attempts to run the
engine again. -/
structure Visit.Echo (v w : Visit) : Prop where
  /-- The same index. -/
  index : w.index = v.index
  /-- The step, without attempts to run the engine again. -/
  slot : w.slot = v.slot.calm
  /-- The engine that goes along. -/
  before : v.before.Echo w.before
  /-- It is attempted as well, or not. -/
  attempted : w.attempted = v.attempted

namespace Visit.Echo

variable {v w : Visit}

/-- The same templates are expanded. -/
theorem readied (h : v.Echo w) :
    w.readied.1 = v.readied.1.map Work.calm ∧ v.readied.2.Echo w.readied.2 := by
  obtain ⟨i, s, f, b⟩ := w
  obtain ⟨rfl, rfl, hbefore, rfl⟩ := h
  unfold Visit.readied
  dsimp only
  generalize hv : v.before.info _ = e
  generalize hw : f.info _ = g
  have hinfo : e.Echo g := by
    rw [← hv, ← hw]
    exact hbefore.log _ _ _ _ _ _
  obtain ⟨hwork, hdesk⟩ :=
    Engine.alike_expandWork v.slot.work e.context.bindings g.desk e.desk hinfo.hushed
  dsimp only at hwork hdesk
  have hmoved := hinfo.move hdesk
  rw [hinfo.context] at hmoved
  rw [show v.slot.calm.work = v.slot.work.calm from rfl, Work.expandWork_calm, hinfo.context]
  exact ⟨congrArg (Except.map Work.calm) hwork, hmoved⟩

/-- The step runs in the same session, but for the talk. -/
theorem session (h : v.Echo w) (work : Work) :
    (w.session work.calm).hushed = (v.session work).hushed := by
  have hready := h.readied.2.hushed
  have htags : (w.before.slots.map fun s => s.work.tag) = v.before.slots.map fun s => s.work.tag := by
    rw [h.before.slots, List.map_map]
    exact congrArg (List.map · _) (funext fun s => s.work.tag_calm)
  have hrunning : w.before.running = v.before.running := by
    obtain ⟨d, hd, -⟩ := h.before
    rw [hd]
    rfl
  unfold Visit.session Slot.session Session.hushed
  rw [h.index, h.slot, hready, htags, hrunning, h.before.context, Work.name_calm]
  rfl

/-- The attempt finds the same. -/
theorem outcome (h : v.Echo w) : w.result = v.result ∧ v.after.Echo w.after := by
  unfold Visit.result Visit.after
  by_cases ha : v.attempted = true
  · have ha' : w.attempted = true := h.attempted.trans ha
    obtain ⟨hready, hengine⟩ := h.readied
    rw [v.outcome_eq ha, w.outcome_eq ha', hready, h.index]
    cases v.readied.1 with
    | error why => exact ⟨rfl, hengine⟩
    | ok work =>
      obtain ⟨hfound, hsession⟩ := StepM.matches_calm work _ _ (h.session work).symm
      exact ⟨hfound.symm, hengine.absorb v.index hsession⟩
  · have ha' : ¬ w.attempted = true := h.attempted ▸ ha
    have hmax : w.before.maxSteps = v.before.maxSteps := by
      obtain ⟨d, hd, -⟩ := h.before
      rw [hd]
      rfl
    unfold Visit.outcome
    rw [if_neg ha, if_neg ha', hmax]
    exact ⟨rfl, h.before⟩

/-- The outcome is settled in the same way. -/
theorem settle (h : v.Echo w) (success : Bool) :
    (w.after.settle w.index w.slot success w.result).1 =
        (v.after.settle v.index v.slot success v.result).1 ∧
      v.settled.Echo w.settled := by
  obtain ⟨hresult, hafter⟩ := h.outcome
  unfold Visit.settled
  rw [h.index, h.slot, hresult]
  exact ⟨(hafter.settle v.index v.slot success v.result).1,
    (hafter.settle v.index v.slot true v.result).2⟩

theorem request (h : v.Echo w) : w.request = v.request := by
  unfold Visit.request
  rw [h.index]
  exact h.outcome.2.bind_slot (fun _ => rfl) v.index

theorem ok (h : v.Echo w) : w.ok = v.ok := by
  unfold Visit.ok
  rw [h.outcome.1]

/-- The run goes on at the same step. -/
theorem landing (h : v.Echo w) : w.landing = v.landing := by
  unfold Visit.landing
  rw [h.outcome.1, h.index, h.request, h.outcome.2.length, h.slot]
  rfl

/-- The run comes to the same end. -/
theorem ending (h : v.Echo w) (success : Bool) : w.ending success = v.ending success := by
  have hname : w.slot.name = v.slot.name := by
    rw [h.slot]
    exact v.slot.work.name_calm
  unfold Visit.ending Visit.fault
  rw [h.outcome.1, h.index, h.request, h.outcome.2.length, hname]

end Visit.Echo

/-! ## Runs -/

namespace Engine

/-- A run goes along step by step: it visits the same steps and comes to the same end. -/
theorem echo_steps (budget index : Nat) (success : Bool) {e f : Engine} (h : e.Echo f) :
    List.Forall₂ Visit.Echo (visits budget index e) (visits budget index f) ∧
      (steps budget index success f).1 = (steps budget index success e).1 ∧
      (steps budget index success e).2.Echo (steps budget index success f).2 := by
  -- The same step is reached on both sides; its visits go along with each other, and so does what
  -- follows.
  induction budget generalizing index success e f with
  | zero =>
    obtain ⟨hr', hreached⟩ := h.reach index
    rcases hr : e.reach index with ⟨_ | ⟨j, s⟩, e'⟩
    · rw [hr] at hr' hreached
      rw [visits_of_none hr, visits_of_none hr', steps_of_none hr, steps_of_none hr']
      exact ⟨.nil, rfl, hreached⟩
    · rw [hr] at hr' hreached
      have hv : (⟨j, s, e', false⟩ : Visit).Echo ⟨j, s.calm, (f.reach index).2, false⟩ :=
        ⟨rfl, rfl, hreached, rfl⟩
      rw [visits_zero hr, visits_zero hr', steps_zero hr, steps_zero hr']
      exact ⟨.cons hv .nil, hv.ending success, (hv.settle true).2⟩
  | succ budget ih =>
    obtain ⟨hr', hreached⟩ := h.reach index
    rcases hr : e.reach index with ⟨_ | ⟨j, s⟩, e'⟩
    · rw [hr] at hr' hreached
      rw [visits_of_none hr, visits_of_none hr', steps_of_none hr, steps_of_none hr']
      exact ⟨.nil, rfl, hreached⟩
    · rw [hr] at hr' hreached
      have hv : (⟨j, s, e', true⟩ : Visit).Echo ⟨j, s.calm, (f.reach index).2, true⟩ :=
        ⟨rfl, rfl, hreached, rfl⟩
      rw [visits_succ hr, visits_succ hr', steps_succ hr, steps_succ hr', hv.landing, hv.ok]
      split
      · exact ⟨.cons hv .nil, hv.ending success, (hv.settle true).2⟩
      · next next _ =>
        obtain ⟨hvisits, hending, hend⟩ := ih next
          (success && (⟨j, s, e', true⟩ : Visit).ok) (hv.settle true).2
        exact ⟨.cons hv hvisits, hending, hend⟩

/-! ## The beginning -/

theorem badReference_calm (total index : Nat) (rest : List Slot) :
    badReference total index (rest.map Slot.calm) =
      (badReference total index rest).map fun p => (p.1, p.2.1.calm, p.2.2) := by
  induction rest generalizing index with
  | nil => rfl
  | cons s rest ih =>
    have hreferences : s.calm.work.references = s.work.references := s.work.references_calm
    have henabled : s.calm.enabled = s.enabled := rfl
    rw [List.map_cons, badReference, badReference, ih, hreferences, henabled]
    cases (if s.enabled then s.work.references.find? (outside total) else none) with
    | some target => rfl
    | none => rfl

/-- Making calm slots ready is noted in the same way. -/
theorem hushed_resetSlots (place : Nat) (slots : List Slot) {d d' : Desk}
    (h : d'.hushed = d.hushed) :
    (resetSlots place d' (slots.map Slot.calm)).2.hushed = (resetSlots place d slots).2.hushed := by
  induction slots generalizing place d d' with
  | nil => exact h
  | cons s rest ih =>
    have hnote : (s.calm.work.noteReset d').hushed = (s.work.noteReset d).hushed := by
      rw [show s.calm.work = s.work.calm from rfl, Work.noteReset_calm]
      cases s.work with
      | action a => exact h
      | bare => exact h
      | probe p =>
        show (d'.record _).hushed = (d.record _).hushed
        rw [← Desk.hushed_record, h, Desk.hushed_record]
    rw [List.map_cons, resetSlots, resetSlots]
    exact ih (place + 1) hnote

/-- Closing handles one after the other does not heed the talk. -/
theorem hushed_closeAll (resources : List (String × Handle)) {c d : Desk}
    (h : d.hushed = c.hushed) :
    (Context.closeAll d resources).hushed = (Context.closeAll c resources).hushed := by
  induction resources generalizing c d with
  | nil => exact h
  | cons r rest ih =>
    refine ih (c := r.2.close r.1 c) (d := r.2.close r.1 d) ?_
    rw [← r.2.hushed_close r.1 d, ← r.2.hushed_close r.1 c, h]

namespace Echo

variable {e f : Engine}

/-- Calm engines are made ready in the same way. -/
theorem prepare (h : e.Echo f) :
    f.prepare.1 = e.prepare.1 ∧ e.prepare.2.Echo f.prepare.2 := by
  have hslots : f.clearedSlots = e.clearedSlots.map Slot.calm := by
    refine List.ext_getElem? fun i => ?_
    rw [getElem?_clearedSlots, List.getElem?_map, getElem?_clearedSlots, h.getElem?,
      Option.map_map, Option.map_map]
    rfl
  have hdesk : f.resetDesk.hushed = e.resetDesk.hushed := by
    unfold resetDesk
    rw [h.slots]
    exact hushed_resetSlots 0 e.slots h.hushed
  have hready : ({ e with slots := e.clearedSlots, desk := e.resetDesk } : Engine).Echo
      { f with slots := e.clearedSlots.map Slot.calm, desk := f.resetDesk } := by
    obtain ⟨d, rfl, -⟩ := h
    exact ⟨_, rfl, hdesk⟩
  rw [f.prepare_eq, e.prepare_eq, hslots, badReference_calm, h.length]
  rcases badReference e.slots.length 0 e.clearedSlots with _ | ⟨index, s, target⟩
  · exact ⟨rfl, hready⟩
  · have hname : s.calm.name = s.name := s.work.name_calm
    refine ⟨?_, hready.modifySlot index _⟩
    show some (Fault.control (.badReference (index + 1 : Nat) s.calm.name target _)) = _
    rw [hname]

theorem clearContext (h : e.Echo f) : e.clearContext.Echo f.clearContext := by
  have hclosed := hushed_closeAll e.context.resources h.hushed
  obtain ⟨d, rfl, -⟩ := h
  exact ⟨_, rfl, hclosed⟩

theorem opened (h : e.Echo f) (slots : Option (List Slot)) :
    (e.opened slots).Echo (f.opened (slots.map (List.map Slot.calm))) := by
  have hstart : ({ e with running := true, slots := slots.getD e.slots, firstError := none } :
      Engine).Echo { f with
        running := true
        slots := (slots.map (List.map Slot.calm)).getD f.slots
        firstError := none } := by
    obtain ⟨d, rfl, hd⟩ := h
    refine ⟨d, ?_, hd⟩
    cases slots with
    | none => rfl
    | some given => rfl
  exact hstart.clearContext

theorem begun (h : e.Echo f) (slots : Option (List Slot)) :
    (e.begun slots).Echo (f.begun (slots.map (List.map Slot.calm))) :=
  (h.opened slots).log _ _ _ _ _ _

/-- The visits of the runs go along with each other, and the steps come to the same end. -/
theorem ended (h : e.Echo f) :
    List.Forall₂ Visit.Echo e.trail f.trail ∧ f.ended.1 = e.ended.1 ∧
      e.ended.2.Echo f.ended.2 := by
  obtain ⟨hproblem, hready⟩ := h.prepare
  have hmax : f.prepare.2.maxSteps = e.prepare.2.maxSteps := by
    obtain ⟨d, hd, -⟩ := hready
    rw [hd]
    rfl
  unfold trail Engine.ended
  rcases hp : e.prepare with ⟨_ | why, e'⟩
  · rw [hp] at hproblem hready hmax
    rw [show f.prepare = (none, f.prepare.2) from Prod.ext hproblem rfl]
    dsimp only at hready hmax ⊢
    rw [hmax]
    exact echo_steps e'.maxSteps.toNat 0 true hready
  · rw [hp] at hproblem hready
    rw [show f.prepare = (some why, f.prepare.2) from Prod.ext hproblem rfl]
    exact ⟨.nil, rfl, hready⟩

/-! ## The conclusion -/

theorem notifyEnd (h : e.Echo f) (ok : Bool) : (e.notifyEnd ok).Echo (f.notifyEnd ok) := by
  have hobserver : f.observer = e.observer.calm := by
    obtain ⟨d, rfl, -⟩ := h
    rfl
  have hcurrent : f.current = e.current := by
    obtain ⟨d, rfl, -⟩ := h
    rfl
  have hfirst : f.firstError = e.firstError := by
    obtain ⟨d, rfl, -⟩ := h
    rfl
  unfold Engine.notifyEnd
  -- Nobody tries to run the engine again when they are told of the end.
  rw [hobserver, hcurrent, hfirst, h.context]
  cases e.observer with
  | none => exact h
  | record => exact h.record _
  | reenter => exact h.record _
  | raise => exact (h.record _).log _ _ _ _ _ _
  | report => exact h.record _

theorem announce (h : e.Echo f) (ok : Bool) : (e.announce ok).Echo (f.announce ok) := by
  unfold Engine.announce
  exact (h.log _ _ _ _ _ _).notifyEnd ok

theorem conclude (h : e.Echo f) (ending : Ending) :
    (f.conclude ending).1 = (e.conclude ending).1 ∧
      (e.conclude ending).2.Echo (f.conclude ending).2 := by
  cases ending with
  | finished ok => exact ⟨rfl, h.announce ok⟩
  | broken why => exact ⟨rfl, h⟩
  | lost why =>
    have hfail : (e.fail why).2.Echo (f.fail why).2 := by
      have hlog : (e.error why.message).Echo (f.error why.message) := h.log _ _ _ _ _ _
      unfold fail
      dsimp only
      generalize e.error why.message = e' at hlog ⊢
      generalize f.error why.message = f' at hlog ⊢
      obtain ⟨d, rfl, hd⟩ := hlog
      show (if e'.firstError.isNone then _ else _ : Engine).Echo
        (if e'.firstError.isNone then _ else _)
      split
      · exact ⟨d, rfl, hd⟩
      · exact ⟨d, rfl, hd⟩
    exact ⟨rfl, hfail.announce false⟩

theorem finish (h : e.Echo f) : e.finish.Echo f.finish := by
  obtain ⟨d, hd, hdesk⟩ := h.clearContext
  unfold Engine.finish
  rw [hd]
  exact ⟨d, rfl, hdesk⟩

end Echo

/-! ## Whole runs -/

/-- The visits of a run of some steps, or of the engine's own. There are none when the log cannot be
written to. -/
def journey (e : Engine) (slots : Option (List Slot)) : List Visit :=
  match e.desk.log.ready with
  | .ok _ => (e.begun slots).trail
  | .error _ => []

/-- The run of an idle engine goes along with its run without attempts to run it again: the same
steps are visited, the result is the same, and the engines are the same afterwards but for the talk
at the desk. -/
theorem echo_run {e f : Engine} (h : e.Echo f) (hidle : e.running = false)
    (slots : Option (List Slot)) :
    List.Forall₂ Visit.Echo (e.journey slots) (f.journey (slots.map (List.map Slot.calm))) ∧
      (f.run (slots.map (List.map Slot.calm))).1 = (e.run slots).1 ∧
      (e.run slots).2.Echo (f.run (slots.map (List.map Slot.calm))).2 := by
  have hidle' : f.running = false := by
    obtain ⟨d, rfl, -⟩ := h
    exact hidle
  have hready' : f.desk.log.ready = e.desk.log.ready :=
    show f.desk.hushed.log.ready = e.desk.hushed.log.ready by rw [h.hushed]
  unfold journey
  rw [hready']
  cases hready : e.desk.log.ready with
  | error why =>
    rw [run_of_not_ready hidle hready, run_of_not_ready hidle' (hready'.trans hready)]
    exact ⟨.nil, rfl, (h.opened slots).finish⟩
  | ok u =>
    obtain ⟨hvisits, hending, hend⟩ := (h.begun slots).ended
    rw [run_eq hidle hready, run_eq hidle' (hready'.trans hready), hending]
    obtain ⟨hresult, hconcluded⟩ := hend.conclude (e.begun slots).ended.1
    exact ⟨hvisits, hresult, hconcluded.finish⟩

end Engine

end Deskwork
