/-
# What a Run Closes

From visit to visit a run adds to its tally what the deeds of the probes add to it, and an answer for
every attempt of who watches to run the engine again (`tally_visit`). A run leaves nothing open, so
what was open before it and what was registered in it is closed in the end, each as often as it was
registered (`closings_run`); and all attempts to run the engine again were refused (`answers_run`).
-/
import Deskwork.Proofs.Run.Reentry
import Deskwork.Proofs.Session.Tally
import Mathlib.Algebra.GroupWithZero.Nat

namespace Deskwork

open StepM

/-! ## Registered resources and attempts to run the engine again -/

/-- The label of a resource that a deed registers, if it can be closed. -/
def Deed.labels : Deed → Multiset String
  | .openResource _ handle => handle.labels
  | _ => 0

/-- Deeds add the labels of what they register to the tally, and a refusal for every attempt to run
the engine again. -/
theorem Deed.sum_dealt (deeds : List Deed) :
    (deeds.map Deed.dealt).sum =
      ((deeds.map Deed.labels).sum, Multiset.replicate (deeds.count .reenter) false) := by
  induction deeds with
  | nil => rfl
  | cons d deeds ih =>
    rw [List.map_cons, List.sum_cons, ih, List.map_cons, List.sum_cons, List.count_cons]
    cases d with
    | reenter =>
      refine Prod.ext rfl ?_
      show {false} + Multiset.replicate (deeds.count .reenter) false =
        Multiset.replicate (deeds.count .reenter + 1) false
      rw [Multiset.singleton_add, Multiset.replicate_succ]
    | openResource key handle => simp [Deed.dealt, Deed.labels]
    | _ => simp [Deed.dealt, Deed.labels]

namespace Visit

/-- The deeds that are done at a visit. -/
def deeds (v : Visit) : List Deed :=
  if v.attempted then
    match v.readied.1 with
    | .ok work => work.deedsIn (v.session work)
    | .error _ => []
  else []

/-- The labels of the resources registered at a visit that can be closed, as often as they were
registered. -/
def registered (v : Visit) : Multiset String := (v.deeds.map Deed.labels).sum

/-- How often it was tried at a visit to run the engine again: by the step, and by who watches. -/
def reentries (v : Visit) : Nat :=
  v.deeds.count .reenter + if v.before.observer = .reenter ∧ v.broken = false then 1 else 0

/-- What a visit adds to the tally. -/
def dealt (v : Visit) : Multiset String × Multiset Bool :=
  (v.registered, Multiset.replicate v.reentries false)

end Visit

/-! ## The tally of an engine -/

namespace Engine

/-- What was closed at the desk of an engine or is still open in its context, and the answers to
attempts to run it again. -/
def tally (e : Engine) : Multiset String × Multiset Bool := e.desk.tally e.context

theorem tally_logged (e : Engine) (level : Level) (source message : String) :
    ({ e with desk := e.desk.logged level source message } : Engine).tally = e.tally :=
  (e.desk.quiet_logged level source message).tally e.context

/-- Telling who watches of a step adds a refusal when they try to run the engine again. -/
theorem tally_notifyStep (e : Engine) (index : Nat) (s : Slot) (ok : Bool) :
    (e.notifyStep index s ok).tally =
      (0, Multiset.replicate (if e.observer = .reenter then 1 else 0) false) + e.tally := by
  have htold : (e.record (e.executedEvent index s ok)).tally = e.tally :=
    (e.desk.tally_record e.context _).trans (zero_add e.tally)
  unfold notifyStep
  cases ho : e.observer with
  | none => exact (zero_add e.tally).symm
  | report => exact (zero_add e.tally).symm
  | record => exact htold.trans (zero_add e.tally).symm
  | raise => exact ((tally_logged _ _ _ _).trans htold).trans (zero_add e.tally).symm
  | reenter =>
    have hrefused : (e.record (e.executedEvent index s ok)).refuse.tally = e.tally :=
      (tally_logged _ _ _ _).trans htold
    have hrerun := (e.record (e.executedEvent index s ok)).refuse.desk.tally_record e.context
      (.rerun false)
    exact hrerun.trans (congrArg _ hrefused)

theorem tally_follow (e : Engine) (index : Nat) (s : Slot) (success : Bool) :
    (e.follow index s success).2.tally = e.tally := by
  unfold follow
  split
  · rfl
  · split
    · rfl
    · rfl
    · split <;> rfl
    · split <;> rfl
    · exact tally_logged _ _ _ _

theorem tally_recordFailure (e : Engine) (index : Nat) (s : Slot) :
    (e.recordFailure index s).tally = e.tally := by
  rw [Visit.recordFailure_eq]
  rfl

/-- Settling the outcome of a step adds a refusal when who watches tries to run the engine again. -/
theorem tally_settle (e : Engine) (index : Nat) (s : Slot) (success : Bool) (r : Except Fault Bool)
    (h : ∀ f, r = .error f → f.isControl = true) :
    (e.settle index s success r).2.tally =
      (0, Multiset.replicate (if e.observer = .reenter then 1 else 0) false) + e.tally := by
  unfold settle
  rcases r with f | _ | _
  · dsimp only
    rw [if_pos (h f rfl)]
    unfold loseControl
    dsimp only
    refine (tally_logged _ _ _ _).trans ((tally_notifyStep _ _ _ _).trans ?_)
    have hobserver : ((e.modifySlot index (withError (some f.message))).recordFailure index
        s).observer = e.observer := by
      rw [Visit.recordFailure_eq]
      rfl
    rw [hobserver, tally_recordFailure]
    rfl
  · have htold := (tally_recordFailure (e.notifyStep index s false) index s).trans
      (e.tally_notifyStep index s false)
    dsimp only
    split
    · exact htold
    · exact (tally_logged _ _ _ _).trans htold
  · exact (tally_follow _ _ _ _).trans (e.tally_notifyStep index s true)

/-- Nothing that belongs to the run happens while disabled steps are passed over. -/
theorem tally_passDisabled (e : Engine) (total index : Nat) (rest : List Slot) :
    (e.passDisabled total index rest).2.tally = e.tally := by
  induction rest generalizing e index with
  | nil => rfl
  | cons s rest ih =>
    by_cases hs : s.enabled = true
    · rw [passDisabled_of_enabled e _ _ _ hs]
      rfl
    · rw [passDisabled_of_disabled e _ _ _ hs, ih]
      exact (e.desk.quiet_logged _ _ _).tally e.context

end Engine

/-! ## Visits -/

namespace Visit

/-- An attempt adds the deeds that are done to the tally. -/
theorem tally_after (v : Visit) (h : v.before.running = true) :
    v.after.tally = (v.deeds.map Deed.dealt).sum + v.before.tally := by
  have hready : v.readied.2.tally = v.before.tally :=
    ((Engine.quiet_expandWork _ _ _).tally v.before.context).trans
      ((v.before.desk.quiet_logged _ _ _).tally v.before.context)
  unfold after deeds
  by_cases ha : v.attempted = true
  · rw [v.outcome_eq ha, if_pos ha]
    cases v.readied.1 with
    | error f => exact hready.trans (zero_add _).symm
    | ok work =>
      have hattempt := tally_guarded work (s := v.session work) h
      have hsession : (v.session work).tally = v.before.tally := hready
      rw [hsession] at hattempt
      exact hattempt
  · unfold outcome
    rw [if_neg ha, if_neg ha]
    exact (zero_add _).symm

/-- What a visit adds to the tally. -/
theorem tally_visit (v : Visit) (h : v.before.running = true) :
    v.settled.tally = v.dealt + v.before.tally := by
  have hafter := v.tally_after h
  have hobserver : v.after.observer = v.before.observer := v.moved_after.observer
  unfold dealt registered reentries
  rw [Deed.sum_dealt] at hafter
  cases hb : v.broken with
  | true =>
    -- Who watches is not told of a visit that breaks the run off.
    rw [v.settled_of_broken hb, hafter]
    simp
  | false =>
    have hcontrol : ∀ f, v.result = .error f → f.isControl = true := by
      intro f hf
      unfold broken at hb
      rw [hf] at hb
      simpa using hb
    have hsettled := v.after.tally_settle v.index v.slot true v.result hcontrol
    have hsum : (0, Multiset.replicate (if v.before.observer = .reenter then 1 else 0) false) +
        ((v.deeds.map Deed.labels).sum, Multiset.replicate (v.deeds.count .reenter) false) =
        ((v.deeds.map Deed.labels).sum, Multiset.replicate (v.deeds.count .reenter +
          if v.before.observer = .reenter ∧ false = false then 1 else 0) false) := by
      rw [Prod.mk_add_mk, zero_add, ← Multiset.replicate_add, add_comm]
      simp
    rw [← hsum, add_assoc, ← hafter, ← hobserver]
    exact hsettled

end Visit

/-! ## Runs -/

/-- What visits add up to. -/
theorem Visit.sum_dealt (vs : List Visit) :
    (vs.map Visit.dealt).sum =
      ((vs.map Visit.registered).sum, Multiset.replicate (vs.map Visit.reentries).sum false) := by
  induction vs with
  | nil => rfl
  | cons v vs ih =>
    rw [List.map_cons, List.sum_cons, ih, List.map_cons, List.sum_cons, List.map_cons, List.sum_cons,
      Multiset.replicate_add]
    rfl

/-- The steps of a run add to the tally what their visits add. -/
theorem Passage.tally_eq {index : Nat} {success : Bool} {e e' : Engine} {vs : List Visit}
    {ending : Ending} (h : Passage index success e vs ending e')
    (hall : ∀ v ∈ vs, v.before.Underway) : e'.tally = (vs.map Visit.dealt).sum + e.tally := by
  have hreach {index : Nat} {e e' : Engine} {found : Option (Nat × Slot)}
      (h : e.reach index = (found, e')) : e'.tally = e.tally := by
    have htally := e.tally_passDisabled e.slots.length index (e.slots.drop index)
    rw [show e.passDisabled e.slots.length index (e.slots.drop index) = (found, e') from h] at htally
    exact htally
  have hvisit {index : Nat} {e : Engine} {v : Visit} (hv : v.before.Underway)
      (h : e.reach index = (some (v.index, v.slot), v.before)) :
      v.settled.tally = v.dealt + e.tally := by
    rw [v.tally_visit hv.running, hreach h]
  -- Nothing is added on the way to a step, so a run adds what its visits add one after the other.
  induction h with
  | finish h => exact (hreach h).trans (zero_add _).symm
  | stop v h _ => simpa using hvisit (hall v (by simp)) h
  | go v h _ _ ih =>
    rw [ih fun w hw => hall w (List.mem_cons_of_mem v hw), hvisit (hall v (by simp)) h,
      List.map_cons, List.sum_cons, ← add_assoc, add_comm v.dealt]

namespace Engine

theorem tally_clearContext (e : Engine) : e.clearContext.tally = e.tally :=
  e.context.tally_clear e.desk

theorem tally_opened (e : Engine) (slots : Option (List Slot)) : (e.opened slots).tally = e.tally :=
  e.context.tally_clear e.desk

theorem tally_begun (e : Engine) (slots : Option (List Slot)) : (e.begun slots).tally = e.tally :=
  (tally_logged _ _ _ _).trans (e.tally_opened slots)

theorem tally_finish (e : Engine) : e.finish.tally = e.tally := e.tally_clearContext

theorem tally_prepare (e : Engine) : e.prepare.2.tally = e.tally := by
  have hdesk := e.quiet_resetDesk.tally e.context
  rw [e.prepare_eq]
  split
  · exact hdesk
  · exact hdesk

/-- Until its steps come to an end, a run adds to the tally what its visits add. -/
theorem tally_ended {e : Engine} (hall : ∀ v ∈ e.trail, v.before.Underway) :
    e.ended.2.tally = (e.trail.map Visit.dealt).sum + e.tally := by
  cases hproblem : e.prepare.1 with
  | some why =>
    obtain ⟨htrail, hended⟩ := trail_of_problem hproblem
    rw [htrail, hended]
    exact e.tally_prepare.trans (zero_add _).symm
  | none => rw [(passage_trail hproblem).tally_eq hall, tally_prepare]

/-- Concluding a run adds nothing to the tally. -/
theorem tally_conclude (e : Engine) (ending : Ending) : (e.conclude ending).2.tally = e.tally := by
  have hrecord (q : Engine) (event : Event) (h : event.closing = 0) (h' : event.answer = 0) :
      (q.record event).tally = q.tally := by
    refine (q.desk.tally_record q.context event).trans ?_
    rw [h, h']
    exact zero_add q.tally
  have hannounce (q : Engine) (ok : Bool) : (q.announce ok).tally = q.tally := by
    unfold announce
    generalize hq : q.info _ = q'
    have hinfo : q'.tally = q.tally := hq ▸ tally_logged _ _ _ _
    unfold notifyEnd
    cases q'.observer with
    | none => exact hinfo
    | record => exact (hrecord _ _ rfl rfl).trans hinfo
    | reenter => exact (hrecord _ _ rfl rfl).trans hinfo
    | report => exact (hrecord _ _ rfl rfl).trans hinfo
    | raise => exact ((tally_logged _ _ _ _).trans (hrecord _ _ rfl rfl)).trans hinfo
  cases ending with
  | finished ok => exact hannounce e ok
  | broken why => rfl
  | lost why =>
    refine (hannounce _ false).trans ?_
    unfold fail
    dsimp only
    split
    · exact tally_logged _ _ _ _
    · exact tally_logged _ _ _ _

/-- A run adds to the tally what its visits add. -/
theorem tally_run {e : Engine} (h : e.running = false) (slots : Option (List Slot)) :
    (e.run slots).2.tally = ((e.journey slots).map Visit.dealt).sum + e.tally := by
  have hall := e.underway_journey slots
  unfold journey at hall ⊢
  cases hready : e.desk.log.ready with
  | error f =>
    -- The run clears the context twice, and nothing happens in between.
    rw [run_of_not_ready h hready]
    exact ((tally_finish _).trans (e.tally_opened slots)).trans (zero_add _).symm
  | ok u =>
    rw [hready] at hall
    rw [run_eq h hready]
    dsimp only at hall ⊢
    rw [tally_finish, tally_conclude, tally_ended hall, tally_begun]

/-- When a run is over, what was open before it and what was registered in it has been closed, each
as often as it was registered. -/
theorem closings_run {e : Engine} (h : e.running = false) (slots : Option (List Slot)) :
    (e.run slots).2.desk.closings =
      e.desk.closings + e.context.pending + ((e.journey slots).map Visit.registered).sum := by
  -- Nothing is left open, so all that the tally holds in the end has been closed.
  have hempty : (e.run slots).2.context.pending = 0 := by
    unfold run
    rw [if_neg (by simp [h])]
    rfl
  have htally := congrArg Prod.fst (tally_run h slots)
  rw [Visit.sum_dealt] at htally
  have hsum : (e.run slots).2.desk.closings + (e.run slots).2.context.pending =
      ((e.journey slots).map Visit.registered).sum + (e.desk.closings + e.context.pending) := htally
  rw [hempty, add_zero] at hsum
  rw [hsum, add_comm]

/-- All attempts to run the engine again in the course of a run were refused. -/
theorem answers_run {e : Engine} (h : e.running = false) (slots : Option (List Slot)) :
    (e.run slots).2.desk.answers =
      e.desk.answers + Multiset.replicate ((e.journey slots).map Visit.reentries).sum false := by
  have htally := congrArg Prod.snd (tally_run h slots)
  rw [Visit.sum_dealt] at htally
  exact htally.trans (add_comm _ _)

end Engine

end Deskwork
