/-
# The Markers of a Loop

The start of a loop does nothing. The end of a loop that is to repeat its body for a number of times
counts one repetition more; it sends control back until the number is reached, and then it goes on
with its count at zero again (`guarded_loopEnd`).
-/
import Deskwork.Proofs.Run.Expansion
import Deskwork.Proofs.Session.Programs

namespace Deskwork

open StepM

/-! ## Expansion -/

/-- The template texts of the end of a loop. -/
theorem LoopEnd.templateTexts_eq (l : LoopEnd) :
    (Work.action (.loopEnd l)).templateTexts = [l.left, l.right] := by
  simp [Work.templateTexts, Work.templateValues, Work.fields, Action.fields, LoopEnd.fields,
    Work.templateFields, Action.templateFields, Value.texts]

/-- Expanding the end of a loop changes its texts only. -/
theorem Engine.expandWork_loopEnd {l : LoopEnd} {d : Desk} {bindings : List (String × Scalar)}
    {w : Work} (h : (expandWork (.action (.loopEnd l)) d bindings).1 = .ok w) :
    ∃ left right, w = .action (.loopEnd { l with left := left, right := right }) := by
  obtain ⟨a, rfl, hsteering, -⟩ := steering_of_expandWork h
  obtain ⟨left, right, rfl⟩ := Action.eq_loopEnd_of_steering hsteering
  exact ⟨left, right, rfl⟩

/-! ## Attempts -/

namespace StepM

/-- The attempt of the start of a loop succeeds and leaves nothing behind in its progress. -/
theorem guarded_loopStart (s : Session) (l : LoopStart) :
    ∃ d, runIn s (Engine.guarded (.action (.loopStart l))) =
      (.ok true, { begun s with desk := d }) := by
  exact ⟨s.desk.debug s.name "Entering loop body", guarded_of_run rfl rfl⟩

end StepM

/-! ## Counting -/

namespace LoopEnd

/-- The end of a loop with a start and a positive number of times is valid. -/
theorem check_eq_ok {l : LoopEnd} (hstart : 0 < l.start) (hmax : 0 < l.maxIterations) :
    l.check = .ok () := by
  unfold check
  rw [if_neg (by omega), if_neg (by omega)]

/-- The progress of the end of a loop after one repetition more. -/
def counted (l : LoopEnd) (p : Progress) : Progress :=
  if l.maxIterations ≤ p.iteration + 1 then
    { p with lastError := none, control := none, iteration := 0 }
  else
    { p with
      lastError := none
      control := some ⟨.loopBack, l.start⟩
      iteration := p.iteration + 1 }

theorem control_counted (l : LoopEnd) (p : Progress) :
    (l.counted p).control =
      if l.maxIterations ≤ p.iteration + 1 then none else some ⟨.loopBack, l.start⟩ := by
  unfold counted
  split
  · rfl
  · rfl

theorem iteration_counted (l : LoopEnd) (p : Progress) :
    (l.counted p).iteration =
      if l.maxIterations ≤ p.iteration + 1 then 0 else p.iteration + 1 := by
  unfold counted
  split
  · rfl
  · rfl

end LoopEnd

namespace StepM

/-- The end of a loop that repeats its body for a number of times succeeds. -/
theorem runIn_loopEnd {s : Session} {l : LoopEnd} {kind : String}
    (hending : l.ending = .maxIterations) (hposition : l.start < s.position)
    (hkind : expectKind l.start (some LoopEnd.startTag) s.kinds = .ok kind) :
    ∃ d, runIn (begun s) l.run =
      (.ok (), { s with desk := d, inUse := true, progress := l.counted s.progress }) := by
  have hlookUp : runIn (begun s) (lookUp l.start (some LoopEnd.startTag)) =
      (.ok kind, { begun s with inUse := true }) := by
    rw [runIn_lookUp]
    exact Prod.ext hkind rfl
  have hleaves : ∀ n, l.leaves n = pure (decide (l.maxIterations ≤ n)) := by
    intro n
    unfold LoopEnd.leaves
    rw [hending]
    rfl
  -- The end stands after the start, so the loop is not a backward one.
  have hnot : ¬ (s.position ≠ 0 ∧ s.position ≤ l.start) := by omega
  unfold LoopEnd.run LoopEnd.counted
  rw [runIn_bind, hlookUp]
  dsimp only
  rw [runIn_bind]
  show ∃ d, runIn _ (if s.position ≠ 0 ∧ s.position ≤ l.start then _ else _) = _
  rw [if_neg hnot]
  show ∃ d, runIn _ (l.leaves (s.progress.iteration + 1) >>= _) = _
  rw [hleaves]
  by_cases h : l.maxIterations ≤ s.progress.iteration + 1
  · rw [if_pos h, decide_eq_true h]
    exact ⟨_, rfl⟩
  · rw [if_neg h, decide_eq_false h]
    exact ⟨_, rfl⟩

/-- The attempt of the end of a loop that repeats its body for a number of times. -/
theorem guarded_loopEnd {s : Session} {l : LoopEnd} {kind : String} (hcheck : l.check = .ok ())
    (hending : l.ending = .maxIterations) (hposition : l.start < s.position)
    (hkind : expectKind l.start (some LoopEnd.startTag) s.kinds = .ok kind) :
    ∃ d, runIn s (Engine.guarded (.action (.loopEnd l))) =
      (.ok true, { s with desk := d, inUse := true, progress := l.counted s.progress }) := by
  obtain ⟨d, hrun⟩ := runIn_loopEnd hending hposition hkind
  exact ⟨d, guarded_of_run hcheck hrun⟩

end StepM

end Deskwork
