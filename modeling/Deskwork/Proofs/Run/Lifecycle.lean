/-
# The Life of a Run

A run of an idle engine may be disturbed by attempts to run the engine again, in the midst of any step
and whenever who watches is told of one. All of them are refused, and the run takes the course that it
takes without them (`Engine.Undisturbed`). However the run ends, the engine is idle afterwards, its
context is empty, and what was registered has been closed (`Engine.Cleared`).
-/
import Deskwork.Proofs.Run.Closing

namespace Deskwork

open Relation StepM

namespace Engine

/-- Attempts to run the engine again in the course of a run change nothing of it. -/
structure Undisturbed (e : Engine) (slots : Option (List Slot)) : Prop where
  /-- In the midst of a step, whatever it did before, an attempt of the step to run the engine, with
  whatever steps, is refused: nothing of the engine changes but the log, and nothing of the session of
  the step but the log and a note of the refusal. -/
  amid : ∀ v ∈ e.journey slots, ∀ work s, ReflTransGen Meddling (v.session work) s → ∀ again,
    ∃ d, (v.amid s).run again = (.ok false, { v.amid s with desk := d }) ∧ s.desk.Chats d ∧
      runIn s Deed.runAgain = (.ok (), { s with desk := d.record (.reentered false true) })
  /-- So is an attempt of who watches when they are told of a step; after it, only the log and the
  first failure change before the run goes on. -/
  watched : ∀ v ∈ e.journey slots, v.broken = false → v.before.observer = .reenter → ∀ again,
    ∃ d d' firstError, v.told.run again = (.ok false, { v.told with desk := d }) ∧
      v.told.desk.Chats d ∧ (d.record (.rerun false)).Chats d' ∧
      v.settled = { v.told with desk := d', firstError := firstError }
  /-- There is an answer for every attempt, and it is no. -/
  answers : (e.run slots).2.desk.answers =
    e.desk.answers + Multiset.replicate ((e.journey slots).map Visit.reentries).sum false
  /-- Without any attempts the same steps are visited in the same order, they find the same, and the
  engine is the same before and after each of them. -/
  visits : List.Forall₂ (fun v w => v.Echo w ∧ w.result = v.result ∧ v.settled.Echo w.settled)
    (e.journey slots) (e.calm.journey (slots.map (List.map Slot.calm)))
  /-- The run has the same result. -/
  result : (e.calm.run (slots.map (List.map Slot.calm))).1 = (e.run slots).1
  /-- The engine is the same afterwards. -/
  after : (e.run slots).2.Echo (e.calm.run (slots.map (List.map Slot.calm))).2

/-- What a run leaves behind, whatever its result is. -/
structure Cleared (e : Engine) (slots : Option (List Slot)) : Prop where
  /-- The engine is not running. -/
  running : (e.run slots).2.running = false
  /-- There is no current step. -/
  current : (e.run slots).2.current = -1
  /-- There are no variables. -/
  bindings : (e.run slots).2.context.bindings = []
  /-- There are no started programs. -/
  processes : (e.run slots).2.context.processes = []
  /-- There are no open resources. -/
  resources : (e.run slots).2.context.resources = []
  /-- Whatever can be closed has been closed as often as it was registered, what was open before the
  run included. -/
  closings : (e.run slots).2.desk.closings =
    e.desk.closings + e.context.pending + ((e.journey slots).map Visit.registered).sum

end Engine

/-- However often steps and who watches try to run an idle engine again while it runs, whatever the
steps do, and however the run ends: the attempts do not disturb the run, and the run clears away what
it leaves. -/
theorem run_undisturbed {e : Engine} (h : e.running = false) (slots : Option (List Slot)) :
    e.Undisturbed slots ∧ e.Cleared slots := by
  have hunderway := e.underway_journey slots
  obtain ⟨hvisits, hresult, hafter⟩ := Engine.echo_run e.echo_calm h slots
  -- Whatever came before, the last thing a run does is to clear the context and to stop.
  have hfinish : ∃ q : Engine, (e.run slots).2 = q.finish := by
    unfold Engine.run
    rw [if_neg (by simp [h])]
    exact ⟨_, rfl⟩
  constructor
  · refine ⟨?_, ?_, Engine.answers_run h slots, ?_, hresult, hafter⟩
    · intro v hv work s hs again
      exact Visit.refused_amid (hunderway v hv) hs again
    · intro v hv hb ho again
      exact Visit.refused_watched (hunderway v hv) hb ho again
    · exact hvisits.imp fun v w hvw => ⟨hvw, hvw.outcome.1, (hvw.settle true).2⟩
  · obtain ⟨q, hq⟩ := hfinish
    refine ⟨?_, ?_, ?_, ?_, ?_, Engine.closings_run h slots⟩
    all_goals rw [hq]; rfl

/-- A step that does some deeds whenever it is visited, and whose failure does not stop the script. -/
def doing (label : String) (deeds : List Deed) : Slot :=
  ⟨true, true, .probe ⟨label, [], 0, [], fun _ => .ok (), fun _ => deeds⟩, .fresh⟩

/-- Steps that try to run their engine again, register resources under the same key, some of which
cannot be closed without a failure, and fail; the last one asks for the user. -/
def unruly : List Slot :=
  [doing "outer" [.openResource "a" (.failing "first"), .reenter, .openResource "a" (.closing "second"),
      .setVariable "n" (.int 1), .reenter],
    doing "failing" [.openResource "b" (.failing "first"), .fail .unimplemented, .reenter],
    doing "%user%" []]

/-- An idle engine watched by someone who tries to run it again after every step, on a machine whose
user cannot be found out. -/
def watchedEngine (slots : List Slot) : Engine :=
  .new { Desk.blank with machine := { Desk.blank.machine with
    user := .error ⟨"RuntimeError", some "nobody"⟩ } } slots false 100 .reenter

/-- A run that is disturbed often, and broken off at its last step. -/
theorem run_undisturbed_unruly :
    ((watchedEngine unruly).Undisturbed none ∧ (watchedEngine unruly).Cleared none) ∧
      ((watchedEngine unruly).run none).1.isOk = false ∧
      ((watchedEngine unruly).journey none).map Visit.reentries = [3, 1, 0] ∧
      ((watchedEngine unruly).journey none).map Visit.registered =
        [{"first", "second"}, {"first"}, 0] ∧
      ((watchedEngine unruly).run none).2.desk.closings = {"first", "first", "second"} :=
  ⟨run_undisturbed rfl none, by decide +kernel, by decide +kernel, by decide +kernel,
    by decide +kernel⟩

end Deskwork
