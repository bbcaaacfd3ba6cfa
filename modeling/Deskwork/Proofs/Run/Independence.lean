/-
# Runs Are Independent

Whatever runs an engine has behind it, the next run of some steps is the run of fresh copies of the
steps on a fresh engine (`run_independent`). A run leaves the engine at rest and its steps as they
were authored (`left_run`); apart from the progress of the steps, which is cleared before it is
read, nothing of an earlier run is left.
-/
import Deskwork.Proofs.Run.Recount
import Deskwork.Proofs.Run.Return

namespace Deskwork

/-! ## Actions switch nothing off -/

namespace Passage

variable {index : Nat} {success : Bool} {e e' : Engine} {vs : List Visit} {ending : Ending}

/-- Reaching an action and settling the visit switches nothing off. -/
theorem map_enabled_visit {v : Visit} (hacts : e.ActsOnly)
    (h : e.reach index = (some (v.index, v.slot), v.before)) :
    v.settled.slots.map Slot.enabled = e.slots.map Slot.enabled := by
  obtain ⟨⟨d, current, hbefore, -⟩, -, -, hslot, -⟩ := Engine.reach_some h
  obtain ⟨a, ha⟩ := hacts v.slot (List.mem_of_getElem? hslot)
  rw [v.map_enabled_settled, Visit.map_enabled_after ha, hbefore]

/-- Runs of actions switch nothing off. -/
theorem map_enabled (h : Passage index success e vs ending e') (hacts : e.ActsOnly) :
    e'.slots.map Slot.enabled = e.slots.map Slot.enabled := by
  induction h with
  | finish h =>
    obtain ⟨⟨d, current, rfl, -⟩, -⟩ := Engine.reach_none h
    rfl
  | stop v h _ => exact map_enabled_visit hacts h
  | go v h _ _ ih => rw [ih (hacts.of_moved (moved_visit h)), map_enabled_visit hacts h]

end Passage

/-! ## What a run leaves -/

namespace Engine

/-- What every run leaves of an idle engine that runs some steps. -/
structure Left (e : Engine) (slots : List Slot) (e' : Engine) : Prop where
  /-- No run is going on. -/
  running : e'.running = false
  /-- No step is current. -/
  current : e'.current = -1
  /-- Nothing is left in the context. -/
  context : e'.context = .empty e.context.hooked
  /-- The same number of steps is allowed. -/
  maxSteps : e'.maxSteps = e.maxSteps
  /-- The same one watches. -/
  observer : e'.observer = e.observer
  /-- The log accepts the same entries. -/
  threshold : e'.desk.log.threshold = e.desk.log.threshold
  /-- There are as many steps. -/
  length : e'.slots.length = slots.length
  /-- Every step does the same as before, and is enabled or not, as before. -/
  slots : ∀ {i : Nat} {t : Slot}, e'.slots[i]? = some t →
    ∃ s, slots[i]? = some s ∧ s.Later t ∧ t.enabled = s.enabled

/-- The log accepts the same entries when the steps came to an end. -/
theorem threshold_ended (e : Engine) : e.ended.2.desk.log.threshold = e.desk.log.threshold := by
  by_cases hb : ∀ v ∈ e.trail, v.broken = false
  · exact (gains_ended hb).threshold
  · -- A run that was broken off has visits, so the engine was made ready.
    cases h : e.prepare.1 with
    | some why =>
      rw [(trail_of_problem h).1] at hb
      simp at hb
    | none =>
      have hgains := (passage_trail h).gains_of_broken (by simpa using hb)
      exact (e.prepare_snd.1.gain hgains).threshold

/-- The steps of an engine until they came to an end. -/
theorem moved_ended (e : Engine) : ∃ xs, e.prepare.2.Moved xs e.ended.2 := by
  cases h : e.prepare.1 with
  | some why =>
    rw [(trail_of_problem h).2]
    exact ⟨[], .refl _⟩
  | none => exact ⟨_, (passage_trail h).moved⟩

theorem map_enabled_ended {e : Engine} (h : e.ActsOnly) :
    e.ended.2.slots.map Slot.enabled = e.prepare.2.slots.map Slot.enabled := by
  cases hp : e.prepare.1 with
  | some why => rw [(trail_of_problem hp).2]
  | none => exact (passage_trail hp).map_enabled h.prepare

/-- Preparation clears the progress of the steps and nothing else of them. -/
theorem getElem?_prepare {e : Engine} {i : Nat} {t : Slot} (h : e.prepare.2.slots[i]? = some t) :
    ∃ s, e.slots[i]? = some s ∧ s.Later t ∧ t.enabled = s.enabled := by
  have hcleared {u : Slot} (hu : e.clearedSlots[i]? = some u) :
      ∃ s, e.slots[i]? = some s ∧ s.Later u ∧ u.enabled = s.enabled := by
    rw [getElem?_clearedSlots, Option.map_eq_some_iff] at hu
    obtain ⟨s, hs, rfl⟩ := hu
    exact ⟨s, hs, ⟨rfl, rfl, id⟩, rfl⟩
  rw [e.prepare_eq] at h
  split at h
  · exact hcleared h
  · next index s target _ =>
    have hslots : (e.clearedSlots.modify index _)[i]? = some t := h
    rw [List.getElem?_modify, Option.map_eq_map, Option.map_eq_some_iff] at hslots
    obtain ⟨u, hu, rfl⟩ := hslots
    obtain ⟨s, hs, hlater, henabled⟩ := hcleared hu
    refine ⟨s, hs, hlater.trans ?_, ?_⟩
    · split
      · exact ⟨rfl, rfl, id⟩
      · exact .refl u
    · split
      · exact henabled
      · exact henabled

theorem length_prepare (e : Engine) : e.prepare.2.slots.length = e.slots.length := by
  rw [e.prepare_eq]
  split
  · exact List.length_mapIdx
  · exact (List.length_modify ..).trans List.length_mapIdx

theorem context_prepare (e : Engine) : e.prepare.2.context = e.context := by
  rw [e.prepare_eq]
  split
  · rfl
  · rfl

/-- A run leaves an idle engine at rest, and its actions as they were. -/
theorem left_run {e : Engine} (h : e.running = false) {slots : List Slot}
    (hacts : ∀ s ∈ slots, ∃ a, s.work = .action a) : e.Left slots (e.run (some slots)).2 := by
  cases hready : e.desk.log.ready with
  | error f =>
    rw [run_of_not_ready h hready]
    have hsteady := (e.steady_opened (some slots)).trans (e.opened (some slots)).steady_clearContext
    exact ⟨rfl, rfl, rfl, rfl, rfl, hsteady.threshold, rfl, fun {i t} ht =>
      ⟨t, ht, .refl t, rfl⟩⟩
  | ok u =>
    rw [run_eq h hready]
    have hbegun : (e.begun (some slots)).ActsOnly := hacts
    have hthreshold := (e.begun (some slots)).threshold_ended
    have henabled := map_enabled_ended hbegun
    obtain ⟨-, -, -, hmax⟩ := (e.begun (some slots)).prepare_snd
    have hobserver := (e.begun (some slots)).observer_ended
    obtain ⟨xs, hmoved⟩ := (e.begun (some slots)).moved_ended
    obtain ⟨d, hd, hgains⟩ := (e.begun (some slots)).ended.2.conclude_eq
      (e.begun (some slots)).ended.1
    have hdesk : d.log.threshold = e.desk.log.threshold :=
      (hgains.threshold.trans hthreshold).trans (e.steady_begun (some slots)).threshold
    rw [hd]
    refine ⟨rfl, rfl, ?_, ?_, ?_, ?_, ?_, fun {i t} ht => ?_⟩
    · show Context.empty _ = _
      rw [hmoved.hooked, context_prepare]
      rfl
    · exact hmoved.maxSteps.trans hmax
    · exact hobserver
    · exact (steady_clearContext _).threshold.trans hdesk
    · exact hmoved.length.trans (length_prepare _)
    · obtain ⟨u, hu, hlater, -⟩ := hmoved.slots ht
      obtain ⟨s, hs, hlater', hsame⟩ := getElem?_prepare hu
      have hon : t.enabled = u.enabled := by
        have := congrArg (·[i]?) henabled
        simp only [List.getElem?_map, hu] at this
        rw [show (e.begun (some slots)).ended.2.slots[i]? = some t from ht] at this
        exact Option.some.inj this
      exact ⟨s, hs, hlater'.trans hlater, hon.trans hsame⟩

end Engine

/-! ## Engines with runs behind them -/

/-- The slot is one of the authored step, whatever progress it has made. -/
def Slot.Carries (s : Slot) (st : Step) : Prop := s = { Slot.ofStep st with progress := s.progress }

/-- The engines that come of some steps and runs of them, with the steps around and what became of
them: to run what an engine holds once more is to run what became of its steps. Other things may
happen between the runs. -/
inductive Reached (hooked : Bool) (maxSteps : Int) (observer : Observer) :
    Engine → List (Step × Slot) → Prop where
  /-- The engine is built. -/
  | built (d : Desk) : Reached hooked maxSteps observer (.new d [] hooked maxSteps observer) []
  /-- A step is authored. -/
  | authored {e around} (st : Step) (h : Reached hooked maxSteps observer e around) :
      Reached hooked maxSteps observer e ((st, .ofStep st) :: around)
  /-- Some of the steps around are run, to whatever end. -/
  | ran {e around} (chosen : List (Step × Slot)) (h : Reached hooked maxSteps observer e around)
      (hchosen : chosen ⊆ around) :
      Reached hooked maxSteps observer (e.run (some (chosen.map Prod.snd))).2
        (around ++ (chosen.map Prod.fst).zip (e.run (some (chosen.map Prod.snd))).2.slots)
  /-- Something else happens that leaves the threshold of the log alone. -/
  | meanwhile {e around} (d : Desk) (h : Reached hooked maxSteps observer e around)
      (hd : d.log.threshold = e.desk.log.threshold) :
      Reached hooked maxSteps observer { e with desk := d } around

/-- What is so of every engine that is reached, and of the steps around. -/
structure Rested (hooked : Bool) (maxSteps : Int) (observer : Observer) (e : Engine)
    (around : List (Step × Slot)) : Prop where
  /-- No run is going on. -/
  running : e.running = false
  /-- No step is current. -/
  current : e.current = -1
  /-- Nothing is in the context. -/
  context : e.context = .empty hooked
  /-- The number of steps that is allowed. -/
  maxSteps : e.maxSteps = maxSteps
  /-- Who watches. -/
  observer : e.observer = observer
  /-- Every slot is one of its step. -/
  carried : ∀ p ∈ around, p.2.Carries p.1
  /-- Steps that could never be attempted, as the log refuses entries, have no error. -/
  flawless : ∀ p ∈ around, ∀ f, e.desk.log.ready = .error f → p.2.progress.lastError = none

section

variable {hooked : Bool} {maxSteps : Int} {observer : Observer} {e : Engine}
  {around : List (Step × Slot)}

theorem Slot.Carries.work_eq {s : Slot} {st : Step} (h : s.Carries st) :
    s.work = .action st.action := by
  rw [h]
  rfl

/-- What became of a slot of a step is a slot of the step when it is enabled or not, as before. -/
theorem Slot.Carries.later {s t : Slot} {st : Step} (h : s.Carries st) (hlater : s.Later t)
    (henabled : t.enabled = s.enabled) : t.Carries st := by
  have hwork := hlater.work
  have hcontinue := hlater.continueOnError
  unfold Slot.Carries at h ⊢
  rw [h] at henabled hwork hcontinue
  obtain ⟨_, _, _, progress⟩ := t
  dsimp only at henabled hwork hcontinue
  rw [henabled, hwork, hcontinue]

/-- Slots of steps are actions. -/
theorem actions_of_carried {chosen : List (Step × Slot)} (h : ∀ p ∈ chosen, p.2.Carries p.1) :
    ∀ s ∈ chosen.map Prod.snd, ∃ a, s.work = .action a := by
  intro s hs
  obtain ⟨p, hp, rfl⟩ := List.mem_map.mp hs
  exact ⟨_, (h p hp).work_eq⟩

/-- A step together with what became of its slot in a run. -/
theorem mem_zip_left {chosen : List (Step × Slot)} {e' : Engine}
    (hleft : e.Left (chosen.map Prod.snd) e') {p : Step × Slot}
    (hp : p ∈ (chosen.map Prod.fst).zip e'.slots) :
    ∃ q ∈ chosen, q.1 = p.1 ∧ q.2.Later p.2 ∧ p.2.enabled = q.2.enabled := by
  obtain ⟨i, hi⟩ := List.mem_iff_getElem?.mp hp
  obtain ⟨hst, hslot⟩ := List.getElem?_zip_eq_some.mp hi
  obtain ⟨s, hs, hlater, henabled⟩ := hleft.slots hslot
  rw [List.getElem?_map, Option.map_eq_some_iff] at hst hs
  obtain ⟨q, hq, hqst⟩ := hst
  obtain ⟨q', hq', rfl⟩ := hs
  obtain rfl : q = q' := Option.some.inj (hq.symm.trans hq')
  exact ⟨q, List.mem_of_getElem? hq, hqst, hlater, henabled⟩

/-- Every engine that is reached is at rest. -/
theorem Reached.rested (h : Reached hooked maxSteps observer e around) :
    Rested hooked maxSteps observer e around := by
  induction h with
  | built d => exact ⟨rfl, rfl, rfl, rfl, rfl, by simp, by simp⟩
  | authored st _ ih =>
    refine ⟨ih.running, ih.current, ih.context, ih.maxSteps, ih.observer, ?_, ?_⟩
    · exact List.forall_mem_cons.mpr ⟨rfl, ih.carried⟩
    · exact List.forall_mem_cons.mpr ⟨fun _ _ => rfl, ih.flawless⟩
  | @ran e around chosen _ hchosen ih =>
    -- The steps that were run are still those that were authored, with other progress.
    have hcarried : ∀ p ∈ chosen, p.2.Carries p.1 := fun p hp => ih.carried p (hchosen hp)
    have hleft := Engine.left_run ih.running (actions_of_carried hcarried)
    have hready := StatusLog.ready_congr hleft.threshold
    refine ⟨hleft.running, hleft.current, ?_, hleft.maxSteps.trans ih.maxSteps,
      hleft.observer.trans ih.observer, ?_, ?_⟩
    · rw [hleft.context, ih.context]
      rfl
    · intro p hp
      rcases List.mem_append.mp hp with hp | hp
      · exact ih.carried p hp
      · obtain ⟨q, hq, hst, hlater, henabled⟩ := mem_zip_left hleft hp
        rw [← hst]
        exact (hcarried q hq).later hlater henabled
    · intro p hp f hf
      rw [hready] at hf
      rcases List.mem_append.mp hp with hp | hp
      · exact ih.flawless p hp f hf
      · -- The run did not get as far as its steps.
        have hslot := (List.of_mem_zip hp).2
        rw [Engine.run_of_not_ready ih.running hf] at hslot
        obtain ⟨q, hq, hqp⟩ := List.mem_map.mp
          (show p.2 ∈ chosen.map Prod.snd from hslot)
        rw [← hqp]
        exact ih.flawless q (hchosen hq) f hf
  | meanwhile d _ hd ih =>
    refine ⟨ih.running, ih.current, ih.context, ih.maxSteps, ih.observer, ih.carried, ?_⟩
    have hready := StatusLog.ready_congr hd
    exact fun p hp f hf => ih.flawless p hp f (hready.symm.trans hf)

end

/-! ## Two runs -/

/-- Two runs that nobody can tell apart: with their results, they have left the same first error,
the same desk with everything that was logged, noted and done at it, and steps with the same errors.
-/
structure Indistinct (x y : Except Fault Bool × Engine) : Prop where
  /-- The result is the same. -/
  result : x.1 = y.1
  /-- The first error is the same. -/
  firstError : x.2.firstError = y.2.firstError
  /-- Nothing at the desk differs: the machine, its journal with the notes of who watches, the log,
  what is remembered for templates. -/
  desk : x.2.desk = y.2.desk
  /-- The steps have the same last errors. -/
  errors : x.2.slots.map (fun s => s.progress.lastError) =
    y.2.slots.map fun s => s.progress.lastError

/-- Earlier visits do not show. -/
theorem indistinct_recounted (r : Except Fault Bool) (e : Engine) (c : Nat → Nat) (name : String) :
    Indistinct (r, e.recounted c name) (r, e) :=
  ⟨rfl, rfl, rfl, map_aheadAll (fun _ _ => rfl) c e.slots⟩

/-- The earlier visits of some slots by their indexes. -/
def earlier (chosen : List (Step × Slot)) (i : Nat) : Nat :=
  ((chosen[i]?).map fun p => p.2.progress.visits).getD 0

/-- Slots that are made ready differ from fresh ones in their earlier visits only. -/
theorem cleared_carried {chosen : List (Step × Slot)} (h : ∀ p ∈ chosen, p.2.Carries p.1) :
    ((chosen.map Prod.snd).mapIdx fun i s => s.cleared (i + 1)) =
      aheadAll (earlier chosen)
        ((chosen.map fun p => Slot.ofStep p.1).mapIdx fun i s => s.cleared (i + 1)) := by
  refine List.ext_getElem? fun i => ?_
  rw [getElem?_aheadAll, List.getElem?_mapIdx, List.getElem?_mapIdx, List.getElem?_map,
    List.getElem?_map]
  unfold earlier
  cases hp : chosen[i]? with
  | none => rfl
  | some p =>
    have hcarries : p.2 = { Slot.ofStep p.1 with progress := p.2.progress } :=
      h p (List.mem_of_getElem? hp)
    have hvisits : 0 + p.2.progress.visits = p.2.progress.visits := Nat.zero_add _
    simp only [Option.map_some, Option.getD_some, Option.some.injEq]
    rw [hcarries]
    unfold Slot.cleared Slot.ahead Slot.ofStep Progress.fresh
    dsimp only
    rw [hvisits]

/-- Whatever runs an engine has behind it, and whatever ends they came to, a run of some of the
steps around cannot be told from a run of fresh copies of the steps as they were authored, on an
engine that was just built at the same desk. -/
theorem run_independent {hooked : Bool} {maxSteps : Int} {observer : Observer} {e : Engine}
    {around chosen : List (Step × Slot)} (h : Reached hooked maxSteps observer e around)
    (hchosen : chosen ⊆ around) :
    Indistinct (e.run (some (chosen.map Prod.snd)))
      ((Engine.new e.desk (chosen.map fun p => .ofStep p.1) hooked maxSteps observer).run
        none) := by
  have hrested := h.rested
  have hcarried : ∀ p ∈ chosen, p.2.Carries p.1 := fun p hp => hrested.carried p (hchosen hp)
  obtain ⟨hrunning, hcurrent, hcontext, hmax, hobserver, -, hflawless⟩ := hrested
  cases hready : e.desk.log.ready with
  | error f =>
    -- Neither run gets as far as its steps, and none of the steps was ever attempted.
    rw [Engine.run_of_not_ready hrunning hready,
      Engine.run_of_not_ready (e := .new e.desk _ hooked maxSteps observer) rfl hready]
    refine ⟨rfl, rfl, ?_, ?_⟩
    · unfold Engine.opened Engine.finish Engine.clearContext
      dsimp only
      rw [hcontext]
      rfl
    · show (chosen.map Prod.snd).map _ = (chosen.map fun p => Slot.ofStep p.1).map _
      rw [List.map_map, List.map_map]
      exact List.map_congr_left fun p hp => hflawless p (hchosen hp) f hready
  | ok u =>
    have hfresh : ∀ s ∈ chosen.map fun p => Slot.ofStep p.1, ∃ a, s.work = .action a := by
      intro s hs
      obtain ⟨p, -, rfl⟩ := List.mem_map.mp hs
      exact ⟨_, rfl⟩
    have hrun := Engine.run_recounted e.scriptName
      (e := Engine.new e.desk (chosen.map fun p => .ofStep p.1) hooked maxSteps observer) rfl hready
      (actions_of_carried hcarried) hfresh (by rw [List.length_map, List.length_map])
      (cleared_carried hcarried)
    -- What else is left of earlier runs is overwritten before anything is done.
    have hsame : e.run (some (chosen.map Prod.snd)) = ({ Engine.new e.desk
        (chosen.map fun p => .ofStep p.1) hooked maxSteps observer with
        scriptName := e.scriptName } : Engine).run (some (chosen.map Prod.snd)) := by
      obtain ⟨_, _, _, _, _, _, _, _, _⟩ := e
      subst hrunning hcurrent hcontext hmax hobserver
      rfl
    rw [hsame, hrun]
    exact indistinct_recounted _ _ _ _

/-- An engine that is built at a desk where nothing has happened and may take three steps. -/
def shortEngine : Engine := .new .blank [] false 3 .record

/-- A loop that takes more than three steps. -/
def longLoop : List Step :=
  [⟨true, false, .loopStart ⟨""⟩⟩, ⟨true, false, .loopEnd ⟨1, .maxIterations, "", "", 5⟩⟩]

/-- The steps of the loop after a run that was cut off in the loop. -/
def cutOff : List (Step × Slot) :=
  longLoop.zip (shortEngine.run (some (longLoop.map .ofStep))).2.slots

/-- The second run of a loop that was cut off half-way is like the first run of a fresh one. -/
theorem run_independent_cutOff :
    (cutOff.map fun p => p.2.progress.iteration) = [0, 1] ∧
      Indistinct
        ((shortEngine.run (some (longLoop.map .ofStep))).2.run (some (cutOff.map Prod.snd)))
        ((Engine.new (shortEngine.run (some (longLoop.map .ofStep))).2.desk
          (cutOff.map fun p => .ofStep p.1) false 3 .record).run none) := by
  have hauthored : Reached false 3 .record shortEngine (longLoop.map fun st => (st, .ofStep st)) :=
    .authored _ (.authored _ (.built .blank))
  have hran := hauthored.ran _ (List.Subset.refl _)
  exact ⟨rfl, run_independent hran (List.subset_append_right _ _)⟩

end Deskwork
