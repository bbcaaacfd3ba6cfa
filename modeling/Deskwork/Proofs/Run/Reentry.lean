/-
# Attempts to Run an Engine Again

From the moment a run has begun, its engine is underway: it is running and its log can be written to.
That is so at every visit (`underway_journey`), in the midst of every step (`Visit.underway_amid`) and
whenever who watches is told of one (`Visit.underway_told`). An engine that is underway refuses to be
run, with whatever steps, and nothing of it changes but the log (`Underway.run_eq`). What a step does to
run its engine again, and what who watches does, are such attempts (`Visit.refused_amid`,
`Visit.refused_watched`).
-/
import Deskwork.Proofs.Run.Echo

namespace Deskwork

open Relation StepM

namespace Engine

/-! ## Engines that are underway -/

/-- The engine is running, and its log can be written to. -/
structure Underway (e : Engine) : Prop where
  /-- It is running. -/
  running : e.running = true
  /-- The log can be written to. -/
  ready : e.desk.log.ready = .ok ()

/-- An engine that runs as before, with the same threshold of its log, is underway as well. -/
theorem Underway.congr {e e' : Engine} (h : e.Underway) (hrunning : e'.running = e.running)
    (hlog : e'.desk.log.threshold = e.desk.log.threshold) : e'.Underway :=
  ⟨hrunning.trans h.running, (StatusLog.ready_congr hlog).trans h.ready⟩

theorem Underway.idles {e e' : Engine} (h : e.Underway) (hidles : e.Idles e') : e'.Underway := by
  obtain ⟨d, current, rfl, hd⟩ := hidles
  exact h.congr rfl hd.threshold

/-- An engine that is underway refuses to be run, with whatever steps: the answer is no, and there is
one more entry of the log. -/
theorem Underway.run_eq {e : Engine} (h : e.Underway) (again : Option (List Slot)) :
    e.run again = (.ok false, e.refuse) := by
  unfold run
  rw [if_pos h.running, h.ready]
  rfl

/-- Who watches and tries to run the engine after every step takes note of the step, and then of the
refusal. -/
theorem notifyStep_of_reenter {e : Engine} (ho : e.observer = .reenter) (index : Nat) (s : Slot)
    (ok : Bool) :
    e.notifyStep index s ok =
      ((e.record (e.executedEvent index s ok)).refuse).record (.rerun false) := by
  unfold notifyStep
  rw [ho]

end Engine

/-! ## In the midst of a step -/

namespace Visit

/-- The engine in the midst of a step that has come to a session. -/
def amid (v : Visit) (s : Session) : Engine :=
  { v.readied.2 with desk := s.desk, context := s.context }

/-- In the midst of a step, an engine is underway. -/
theorem underway_amid {v : Visit} (h : v.before.Underway) {work : Work} {s : Session}
    (hs : ReflTransGen Meddling (v.session work) s) : (v.amid s).Underway := by
  have hready : v.readied.2.Underway := h.idles v.idles_readied
  exact hready.congr rfl (kept_of_meddlings hs).desk.threshold

/-- In the midst of a step, the engine refuses to be run, and a step that tries to do so has only this
refusal in its session, and a note of it. -/
theorem refused_amid {v : Visit} (h : v.before.Underway) {work : Work} {s : Session}
    (hs : ReflTransGen Meddling (v.session work) s) (again : Option (List Slot)) :
    ∃ d, (v.amid s).run again = (.ok false, { v.amid s with desk := d }) ∧ s.desk.Chats d ∧
      runIn s Deed.runAgain = (.ok (), { s with desk := d.record (.reentered false true) }) := by
  have hunderway := underway_amid h hs
  have hrunning : s.running = true := (setting_of_meddlings hs).1.trans h.running
  refine ⟨(v.amid s).refuse.desk, hunderway.run_eq again, s.desk.chats_logged _ _ _, ?_⟩
  rw [Deed.runIn_runAgain, hrunning]
  rfl

/-! ## Who watches -/

/-- The engine of which who watches is told. -/
def shown (v : Visit) : Engine :=
  match v.result with
  | .error _ => v.noted.recordFailure v.index v.slot
  | .ok _ => v.noted

/-- The engine when who watches has taken note of the step. -/
def told (v : Visit) : Engine := v.shown.record (v.shown.executedEvent v.index v.slot v.ok)

theorem running_after (v : Visit) : v.after.running = v.before.running := by
  obtain h | h | ⟨work, s, h, -⟩ := v.after_cases
  · rw [h]
  · rw [h]
    rfl
  · rw [h]
    rfl

/-- But for a failure that is kept, the engine is shown as it is after the attempt. -/
theorem shown_eq (v : Visit) :
    ∃ slots firstError, v.shown = { v.after with slots := slots, firstError := firstError } := by
  unfold shown noted
  cases v.result with
  | error f =>
    dsimp only
    rw [recordFailure_eq]
    exact ⟨_, _, rfl⟩
  | ok ok => exact ⟨v.after.slots, v.after.firstError, rfl⟩

/-- After an attempt, an engine is underway. -/
theorem underway_after {v : Visit} (h : v.before.Underway) : v.after.Underway :=
  h.congr v.running_after v.steady_after.threshold

/-- Whenever who watches is told of a step, the engine is underway. -/
theorem underway_told {v : Visit} (h : v.before.Underway) : v.told.Underway := by
  obtain ⟨slots, firstError, hshown⟩ := v.shown_eq
  unfold told
  rw [hshown]
  exact (underway_after h).congr rfl rfl

/-- Unless the run is broken off, who watches is told of the step; after that, only the log and the
first failure may change. -/
theorem settled_eq_notifyStep (v : Visit) (h : v.broken = false) :
    ∃ d firstError, (v.shown.notifyStep v.index v.slot v.ok).desk.Chats d ∧
      v.settled = { v.shown.notifyStep v.index v.slot v.ok with
        desk := d, firstError := firstError } := by
  -- The cases are those of settling. When control was lost, the failure is kept before who watches is
  -- told, and otherwise afterwards.
  unfold broken at h
  unfold settled shown noted ok Engine.settle
  rcases hr : v.result with f | _ | _
  · rw [hr] at h
    dsimp only
    rw [if_pos (by simpa using h)]
    exact ⟨_, _, Desk.chats_logged _ _ _ _, rfl⟩
  · dsimp only
    rw [recordFailure_eq]
    split
    · exact ⟨_, _, .refl _, rfl⟩
    · exact ⟨_, _, Desk.chats_logged _ _ _ _, rfl⟩
  · dsimp only
    unfold Engine.follow
    split
    · exact ⟨_, _, .refl _, rfl⟩
    · split
      · exact ⟨_, _, .refl _, rfl⟩
      · exact ⟨_, _, .refl _, rfl⟩
      · split <;> exact ⟨_, _, .refl _, rfl⟩
      · split <;> exact ⟨_, _, .refl _, rfl⟩
      · exact ⟨_, _, Desk.chats_logged _ _ _ _, rfl⟩

/-- When who watches tries to run the engine again, it refuses, and after the visit there is only this
refusal and a note of it, but for the log and the first failure. -/
theorem refused_watched {v : Visit} (h : v.before.Underway) (hb : v.broken = false)
    (ho : v.before.observer = .reenter) (again : Option (List Slot)) :
    ∃ d d' firstError, v.told.run again = (.ok false, { v.told with desk := d }) ∧
      v.told.desk.Chats d ∧ (d.record (.rerun false)).Chats d' ∧
      v.settled = { v.told with desk := d', firstError := firstError } := by
  have hobserver : v.shown.observer = .reenter := by
    obtain ⟨slots, firstError, hshown⟩ := v.shown_eq
    rw [hshown]
    exact v.moved_after.observer.trans ho
  obtain ⟨d', firstError, hchats, hsettled⟩ := v.settled_eq_notifyStep hb
  rw [Engine.notifyStep_of_reenter hobserver] at hchats hsettled
  exact ⟨v.told.refuse.desk, d', firstError, (underway_told h).run_eq again,
    Desk.chats_logged _ _ _ _, hchats, hsettled⟩

/-- After a visit, an engine is underway. -/
theorem underway_settled {v : Visit} (h : v.before.Underway) : v.settled.Underway := by
  cases hb : v.broken with
  | true =>
    rw [v.settled_of_broken hb]
    exact underway_after h
  | false =>
    obtain ⟨d, hd, -⟩ := v.settled_eq hb
    refine h.congr ?_ (v.gains_settled hb).threshold
    rw [hd, ← v.running_after]
    unfold noted
    split
    · rfl
    · rfl

end Visit

/-! ## Whole runs -/

/-- Throughout a run whose engine is underway, the engine is underway. -/
theorem Passage.underway {index : Nat} {success : Bool} {e e' : Engine} {vs : List Visit}
    {ending : Ending} (h : Passage index success e vs ending e') (he : e.Underway) :
    e'.Underway ∧ ∀ v ∈ vs, v.before.Underway := by
  obtain ⟨hend, hall⟩ := h.invariant (fun hidles h => h.idles hidles)
    (fun v _ _ h => Visit.underway_settled h) he
  exact ⟨hend, fun v hv => (hall v hv).1⟩

namespace Engine

/-- Whenever a step is visited in a run, the engine is underway. -/
theorem underway_journey (e : Engine) (slots : Option (List Slot)) :
    ∀ v ∈ e.journey slots, v.before.Underway := by
  unfold journey
  cases hready : e.desk.log.ready with
  | error f => simp
  | ok u =>
    have hbegun : (e.begun slots).Underway :=
      ⟨rfl, (e.steady_begun slots).ready.trans hready⟩
    cases hproblem : (e.begun slots).prepare.1 with
    | some why =>
      dsimp only
      rw [(trail_of_problem hproblem).1]
      simp
    | none =>
      have hprepared : (e.begun slots).prepare.2.Underway :=
        hbegun.congr (e.begun slots).running_prepare (e.begun slots).prepare_snd.1.threshold
      exact ((passage_trail hproblem).underway hprepared).2

end Engine

end Deskwork
