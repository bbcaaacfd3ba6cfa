/-
# Pace

How a pause comes out depends on whether someone else takes care of it, and on the machine, but not on
what happened there before: sessions that agree in this are of one pace (`Session.pace`). Programs that
find the same from sessions of one pace, and end at one pace again, keep pace with each other (`Paced`).
-/
import Deskwork.Proofs.Session.Emissions

namespace Deskwork

/-- The machine without its journal. -/
def Machine.unlogged (m : Machine) : Machine := { m with journal := [] }

/-- A pause is sat out in the same way whatever happened before. -/
theorem Machine.alike_sleep (x : Number.Amount) :
    Alike unlogged (fun m => m.sleep x) fun m => m.sleep x := by
  have same (m : Machine) : m.unlogged.sleep x = _ := (StepM.sleep_journal m [] x).1
  refine .of_image (fun m => ?_) fun m => ?_
  · rw [same]
  · rw [same]
    rfl

namespace Session

/-- What pauses depend on: whether someone else takes care of them, and the machine without its journal. -/
def pace (s : Session) : Bool × Machine := (s.context.hooked, s.desk.machine.unlogged)

/-- An entry of the step does not change the pace. -/
theorem pace_told (s : Session) (message : String) : (s.told message).pace = s.pace := by
  unfold pace
  rw [s.machine_told]
  rfl

/-- Pauses come out alike at one pace. -/
theorem sleep_paced {s t : Session} (same : s.pace = t.pace) (x : Number.Amount) :
    (s.context.sleep s.desk x).1 = (t.context.sleep t.desk x).1 ∧
      (s.context.sleep s.desk x).2.machine.unlogged
        = (t.context.sleep t.desk x).2.machine.unlogged := by
  have hooked : s.context.hooked = t.context.hooked := congrArg Prod.fst same
  have machine : s.desk.machine.unlogged = t.desk.machine.unlogged := congrArg Prod.snd same
  unfold Context.sleep
  rw [hooked]
  split
  · exact ⟨rfl, machine⟩
  split
  · exact ⟨rfl, machine⟩
  · exact Machine.alike_sleep x _ _ machine

end Session

namespace StepM

variable {α : Type}

/-- Two programs keep pace: from sessions of one pace they find the same and end at one pace. -/
def Paced (x y : StepM α) : Prop := Alike Session.pace (fun s => runIn s x) fun s => runIn s y

theorem paced_pauseWith {sleep : Context → Desk → Except Fault Unit × Desk}
    (h : ∀ {s t : Session}, s.pace = t.pace →
      (sleep s.context s.desk).1 = (sleep t.context t.desk).1 ∧
        (sleep s.context s.desk).2.machine.unlogged
          = (sleep t.context t.desk).2.machine.unlogged) :
    Paced (pauseWith sleep) (pauseWith sleep) := by
  intro s t same
  have hooked : s.context.hooked = t.context.hooked := congrArg Prod.fst same
  obtain ⟨found, machine⟩ := h same
  dsimp only
  rw [runIn_pauseWith, runIn_pauseWith]
  exact ⟨found, Prod.ext hooked machine⟩

theorem paced_sleep (seconds : Float) : Paced (sleep seconds) (sleep seconds) :=
  paced_pauseWith fun same => Session.sleep_paced same _

theorem paced_sleepMillis (ms : Int) : Paced (sleepMillis ms) (sleepMillis ms) := by
  refine paced_pauseWith fun {s t} same => ?_
  unfold Context.sleepMillis
  split
  · exact Session.sleep_paced same _
  · exact ⟨rfl, congrArg Prod.snd same⟩

/-- What happens does not change the pace. -/
theorem paced_happen {e : Event} {k : Unit → StepM α} {y : StepM α} (h : Paced (k ()) y) :
    Paced (happen e >>= k) y := by
  intro s t same
  dsimp only
  rw [runIn_bind]
  exact h { s with desk := s.desk.record e } t same

/-- Doing something for each of some items keeps pace with doing something else for as many. -/
theorem paced_forM {β : Type} {f : α → StepM PUnit} {g : β → StepM PUnit}
    {l : List α} {l' : List β} (h : ∀ a ∈ l, ∀ b, Paced (f a) (g b)) (same : l.length = l'.length) :
    Paced (l.forM f) (l'.forM g) := by
  induction l generalizing l' with
  | nil =>
    obtain rfl := List.length_eq_zero_iff.mp same.symm
    exact fun _ _ same => ⟨rfl, same⟩
  | cons a l ih =>
    cases l' with
    | nil => cases same
    | cons b l' =>
      obtain ⟨first, rest⟩ := List.forall_mem_cons.mp h
      exact alike_bind (first b) fun _ => ih rest (Nat.succ.inj same)

end StepM

end Deskwork
