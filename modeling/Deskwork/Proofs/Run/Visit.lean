/-
# Visits

A run goes from step to step. A visit is one step reached in a run, with the engine as it was then.
Everything that follows from the visit is a function of it: its result, the transfer that the step
requests, the fault by which control is lost, the note for who watches, and where the run goes on
(`settle_eq`).
-/
import Deskwork.Proofs.Run.Apart
import Deskwork.Proofs.Session.Attempts

namespace Deskwork

open StepM

/-! ## Observers -/

/-- The observer takes note of what it is told. -/
def Observer.notes : Observer → Bool
  | .none | .report => false
  | .record | .raise | .reenter => true

namespace Engine

/-- The notes that the observer takes when it is told of some events. -/
def notes (e : Engine) (events : List Event) : List Event := if e.observer.notes then events else []

theorem notes_nil (e : Engine) : e.notes [] = [] := by
  unfold notes
  split
  · rfl
  · rfl

theorem notes_append (e : Engine) (xs ys : List Event) :
    e.notes (xs ++ ys) = e.notes xs ++ e.notes ys := by
  unfold notes
  split
  · rfl
  · rfl

theorem notes_congr {e e' : Engine} (h : e'.observer = e.observer) (events : List Event) :
    e'.notes events = e.notes events := by
  unfold notes
  rw [h]

/-- Telling the observer of a step changes nothing but the desk, where it may take a note. -/
theorem notifyStep_eq (e : Engine) (index : Nat) (s : Slot) (ok : Bool) :
    ∃ d, e.notifyStep index s ok = { e with desk := d } ∧
      e.desk.Gains d (e.notes [e.executedEvent index s ok]) := by
  have h := e.desk.gains_record (e := e.executedEvent index s ok) rfl
  unfold notifyStep notes
  dsimp only
  split
  · next ho => exact ⟨e.desk, rfl, by rw [ho]; exact (Desk.Steady.refl e.desk).gains⟩
  · next ho => exact ⟨e.desk, rfl, by rw [ho]; exact (Desk.Steady.refl e.desk).gains⟩
  · next ho => exact ⟨_, rfl, by rw [ho]; exact h⟩
  · next ho => exact ⟨_, rfl, by rw [ho]; exact h.steady (Desk.steady_logged _ _ _ _)⟩
  · next ho =>
    exact ⟨_, rfl, by
      rw [ho]
      exact (h.steady (Desk.steady_logged _ _ _ _)).steady (Desk.steady_record _ rfl)⟩

end Engine

/-! ## Visits -/

/-- A step reached in a run. -/
structure Visit where
  index : Nat
  slot : Slot
  before : Engine
  /-- The step was attempted; otherwise it would have been one step too many. -/
  attempted : Bool

namespace Visit

/-! ## The attempt -/

/-- The engine that has announced the step and has its templates expanded. -/
def readied (v : Visit) : Except Fault Work × Engine :=
  let e := v.before.info
    ("[" ++ toString (v.index + 1) ++ "/" ++ toString v.before.slots.length ++ "] " ++ v.slot.name)
  let (work, d) := Engine.expandWork v.slot.work e.desk e.context.bindings
  (work, { e with desk := d })

/-- The session in which a work is attempted in place of the step's own. -/
def session (v : Visit) (work : Work) : Session :=
  v.slot.session work v.readied.2.desk v.before.context
    (some (v.before.slots.map fun s => s.work.tag)) v.before.running (v.index + 1 : Nat)

/-- The result of the visit and the engine afterwards. -/
def outcome (v : Visit) : Except Fault Bool × Engine :=
  if v.attempted then v.before.executeApart v.index v.slot
  else (.error (.control (.stepLimit v.before.maxSteps)), v.before)

/-- The result of the visit. -/
def result (v : Visit) : Except Fault Bool := v.outcome.1

/-- The engine after the attempt. -/
def after (v : Visit) : Engine := v.outcome.2

/-- An attempt: the templates are expanded, and then the step runs in a session of its own. -/
theorem outcome_eq (v : Visit) (h : v.attempted = true) :
    v.outcome =
      match v.readied.1 with
      | .error f => (.error f, v.readied.2)
      | .ok work =>
        ((runIn (v.session work) (Engine.guarded work)).1,
          v.readied.2.absorb v.index (runIn (v.session work) (Engine.guarded work)).2) := by
  unfold outcome
  rw [if_pos h]
  unfold Engine.executeApart session readied
  dsimp only
  generalize Engine.expandWork v.slot.work _ _ = p
  rcases p with ⟨f | work, d⟩
  · rfl
  · rfl

/-! ## What a visit comes to -/

/-- The step succeeded. -/
def ok (v : Visit) : Bool :=
  match v.result with
  | .ok ok => ok
  | .error _ => false

/-- The transfer of control that the step requests. -/
def request (v : Visit) : Option Signal :=
  (v.after.slots[v.index]?).bind fun s => s.progress.control

/-- Where a request of a step that succeeded leads, from the step at an index: to another index, out
of the script, or to a position that there is not. -/
inductive Course where
  | on (index : Nat)
  | out
  /-- To a position outside of the script. -/
  | astray (target : Int)
  deriving DecidableEq

/-- Where a request leads from the step at an index of a script. -/
def course (total index : Nat) : Option Signal → Course
  | none | some ⟨.next, _⟩ => .on (index + 1)
  | some ⟨.skipNext, _⟩ => .on (index + 2)
  | some ⟨.jump, target⟩ | some ⟨.loopBack, target⟩ =>
    if Engine.outside total target then .astray target else .on (target.toNat - 1)
  | some ⟨.exit, _⟩ => .out

/-- The fault by which control is lost, if it is: that of the attempt, or that of a request of a
step that succeeded. -/
def fault (v : Visit) : Option Fault :=
  match v.result with
  | .error f => some f
  | .ok false => none
  | .ok true =>
    match course v.after.slots.length v.index v.request with
    | .astray target => some (.control (.badTarget (v.index + 1 : Nat) v.slot.name target))
    | _ => none

/-- Where the run goes on, if it does. Only the requests of steps that succeeded are followed. -/
def landing (v : Visit) : Option Nat :=
  match v.result with
  | .error _ => none
  | .ok false => if v.slot.continueOnError then some (v.index + 1) else none
  | .ok true =>
    match course v.after.slots.length v.index v.request with
    | .on next => some next
    | _ => none

/-- The engine as who watches finds it: a step at which control was lost has the fault as its
error. -/
def noted (v : Visit) : Engine :=
  match v.result with
  | .error f => v.after.modifySlot v.index (Engine.withError (some f.message))
  | .ok _ => v.after

/-- The note for who watches. -/
def notice (v : Visit) : Event := v.noted.executedEvent v.index v.slot v.ok

/-- The summary of the failure of the step. -/
def summary (v : Visit) : String := v.noted.summary v.index v.slot

/-- The engine after the outcome is settled. -/
def settled (v : Visit) : Engine := (v.after.settle v.index v.slot true v.result).2

/-- How the steps come to an end when the run does not go on. -/
def ending (v : Visit) (success : Bool) : Ending :=
  match v.result with
  | .error f => if f.isControl then .finished false else .broken f
  | .ok false => .finished false
  | .ok true =>
    match v.fault with
    | some f => .lost f
    | none => .finished success

/-- Where the run goes on after a step that succeeds. -/
theorem landing_of_ok {v : Visit} (h : v.result = .ok true) {next : Nat}
    (hcourse : course v.after.slots.length v.index v.request = .on next) :
    v.landing = some next := by
  unfold landing
  rw [h]
  dsimp only
  rw [hcourse]

/-! ## Settling -/

/-- The outcome of a visit is settled as it is described: where the run goes on, or how the steps
come to an end. -/
theorem settle_eq (v : Visit) (success : Bool) :
    v.after.settle v.index v.slot success v.result =
      match v.landing with
      | some next => (.goto next (success && v.ok), v.settled)
      | none => (.stop (v.ending success), v.settled) := by
  unfold settled landing ending fault ok Engine.settle
  rcases hr : v.result with f | _ | _
  · dsimp only
    split
    · rfl
    · rfl
  · dsimp only
    split
    · simp
    · rfl
  · obtain ⟨d, hd, _⟩ := v.after.notifyStep_eq v.index v.slot true
    dsimp only
    rw [hd]
    unfold Engine.follow request
    dsimp only
    rcases (v.after.slots[v.index]?).bind fun s => s.progress.control with
      _ | ⟨_ | _ | _ | _ | _, target⟩
    · simp [course]
    · simp [course]
    · simp [course]
    · simp only [course]
      split
      · rfl
      · simp
    · simp only [course]
      split
      · rfl
      · simp
    · rfl

/-- Nobody expects the fault of the attempt: it breaks the run off. -/
def broken (v : Visit) : Bool :=
  match v.result with
  | .error f => !f.isControl
  | .ok _ => false

theorem recordFailure_eq (e : Engine) (index : Nat) (s : Slot) :
    e.recordFailure index s =
      { e with firstError := e.firstError.or (some (e.summary index s)) } := by
  rcases e with ⟨_, _, _, _, _, _, _, _ | message, _⟩
  · rfl
  · rfl

/-- Settling a visit that did not break the run off tells who watches, and keeps the failure when it
is the first one. -/
theorem settled_eq (v : Visit) (h : v.broken = false) :
    ∃ d, v.settled = { v.noted with
        desk := d
        firstError := v.after.firstError.or (if v.ok then none else some v.summary) } ∧
      v.after.desk.Gains d (v.after.notes [v.notice]) := by
  unfold broken at h
  unfold settled notice summary ok noted Engine.settle
  rcases hr : v.result with f | _ | _
  · rw [hr] at h
    have hf : f.isControl = true := by simpa using h
    dsimp only
    rw [if_pos hf]
    unfold Engine.loseControl
    dsimp only
    rw [recordFailure_eq]
    obtain ⟨d, hd, hgains⟩ := Engine.notifyStep_eq
      { v.after.modifySlot v.index (Engine.withError (some f.message)) with
        firstError := v.after.firstError.or
          (some ((v.after.modifySlot v.index (Engine.withError (some f.message))).summary v.index
            v.slot)) } v.index v.slot false
    exact ⟨_, congrArg (Engine.error · _) hd, hgains.steady (Desk.steady_logged _ _ _ _)⟩
  · obtain ⟨d, hd, hgains⟩ := v.after.notifyStep_eq v.index v.slot false
    dsimp only
    rw [hd, recordFailure_eq]
    split
    · exact ⟨d, rfl, hgains⟩
    · exact ⟨_, rfl, hgains.steady (Desk.steady_logged _ _ _ _)⟩
  · obtain ⟨d, hd, hgains⟩ := v.after.notifyStep_eq v.index v.slot true
    dsimp only
    rw [hd, if_pos rfl, Option.or_none]
    unfold Engine.follow
    split
    · exact ⟨d, rfl, hgains⟩
    · split
      · exact ⟨d, rfl, hgains⟩
      · exact ⟨d, rfl, hgains⟩
      · split
        · exact ⟨d, rfl, hgains⟩
        · exact ⟨d, rfl, hgains⟩
      · split
        · exact ⟨d, rfl, hgains⟩
        · exact ⟨d, rfl, hgains⟩
      · exact ⟨_, rfl, hgains.steady (Desk.steady_logged _ _ _ _)⟩

/-- A visit that broke the run off is not settled at all. -/
theorem settled_of_broken (v : Visit) (h : v.broken = true) : v.settled = v.after := by
  unfold broken at h
  unfold settled Engine.settle
  rcases hr : v.result with f | _ | _
  · rw [hr] at h
    have hf : f.isControl = false := by simpa using h
    dsimp only
    rw [hf]
    rfl
  · rw [hr] at h
    cases h
  · rw [hr] at h
    cases h

end Visit

end Deskwork
