/-
# The Marks of a Step

All that the attempt of an action can do to the marks of its step, in one inversion: what it
requests, what it counts, and which fault it lets out (`marks_guarded`). Only a branch and the end
of a loop request anything, only the end of a loop counts, and only the end of a loop loses control
by itself: when it does not find the start where it should be.
-/
import Deskwork.Proofs.Session.Attempts

namespace Deskwork

open StepM

/-! ## Checks -/

/-- A check that finds a fault does not lose control. -/
theorem Action.spares_check (a : Action) : Spares Fault.isControl a.check := by
  have hrequire (text : String) (why : Invalid) :
      Spares Fault.isControl (require text why) := by
    unfold require
    split
    · exact spares_error rfl
    · exact spares_ok _
  have htransfer (f : FileTransfer) : Spares Fault.isControl f.check :=
    (hrequire _ _).bind fun _ => hrequire _ _
  cases a with
  | copyFile f => exact htransfer f
  | moveFile f => exact htransfer f
  | delete d => exact hrequire _ _
  | makeFolder f => exact hrequire _ _
  | fileExists e => exact hrequire _ _
  | rename r =>
    refine (hrequire _ _).bind fun _ => (hrequire _ _).bind fun _ => ?_
    split
    · exact spares_error rfl
    · exact spares_ok _
  | loopStart l => exact spares_ok _
  | _ =>
    -- What is left are choices between a fault of the fields and none.
    simp only [check, MouseClick.check, Keyboard.check, Waiting.check, Windowing.check,
      Assignment.check, Branch.check, LoopEnd.check, Webhook.check]
    (repeat' split) <;> first | exact spares_error rfl | exact spares_ok _

/-! ## Attempts -/

namespace StepM

/-- How an attempt goes: the check finds a fault, the body succeeds, or the body fails. -/
theorem guarded_cases (s : Session) (w : Work) :
    (∃ f, w.check s.progress.visits = .error f ∧
        (f.isControl = true ∧ runIn s (Engine.guarded w) = (.error f, s) ∨
          ∃ message, runIn s (Engine.guarded w) = (.ok false, erred s message))) ∨
      (∃ t, runIn (begun s) w.run = (.ok (), t) ∧ runIn s (Engine.guarded w) = (.ok true, t)) ∨
      ∃ f t, runIn (begun s) w.run = (.error f, t) ∧
        (f.isControl = true ∧ runIn s (Engine.guarded w) = (.error f, t) ∨
          ∃ message, runIn s (Engine.guarded w) = (.ok false, erred t message)) := by
  rw [runIn_guarded, runIn_attempt]
  cases hcheck : w.check s.progress.visits with
  | error f =>
    refine .inl ⟨f, rfl, ?_⟩
    cases f with
    | invalid why => exact .inr ⟨_, rfl⟩
    | control why => exact .inl ⟨rfl, rfl⟩
    | _ => exact .inr ⟨_, rfl⟩
  | ok u =>
    dsimp only
    rw [runIn_execute]
    rcases hrun : runIn (begun s) w.run with ⟨f | u, t⟩
    · refine .inr (.inr ⟨f, t, rfl, ?_⟩)
      dsimp only
      by_cases hcontrol : f.isControl = true
      · simp [hcontrol]
      · right
        by_cases haction : f.isAction = true
        · exact ⟨f.message, by simp [hcontrol, haction]⟩
        · exact ⟨"Unexpected error: " ++ f.message, by simp [hcontrol, haction]⟩
    · exact .inr (.inl ⟨t, rfl, rfl⟩)

end StepM

/-! ## Branches -/

/-- A condition is decided without a trace in the progress of the step. -/
theorem Condition.runIn_evaluate (c : Condition) (left right : String) (s : Session) :
    ∃ b t, runIn s (c.evaluate left right) = (.ok b, t) ∧ t.progress = s.progress := by
  unfold evaluate
  split
  · next b _ => exact ⟨b, s, rfl, rfl⟩
  · exact ⟨false, _, rfl, rfl⟩

/-- What a branch requests when its condition holds. -/
def Branch.request? (b : Branch) : Option Signal :=
  match b.consequence with
  | .proceed => none
  | .skipNext => some ⟨.skipNext, 0⟩
  | .jump => some ⟨.jump, b.target⟩
  | .exit => some ⟨.exit, 0⟩

/-- The body of a branch succeeds; it may make its request, and marks nothing else. -/
theorem Branch.runIn_run (b : Branch) (s : Session) :
    ∃ t, runIn s b.run = (.ok (), t) ∧ (t.progress = s.progress ∨
      ∃ r, b.request? = some r ∧ t.progress = { s.progress with control := some r }) := by
  obtain ⟨holds, t, ht, hprogress⟩ := b.condition.runIn_evaluate b.left b.right s
  have hrun : ∃ d, runIn s b.run =
      runIn { t with desk := d } (if holds then b.transfer else pure ()) := by
    refine ⟨t.desk.info t.name (b.describe ++ " -> " ++ (Scalar.bool holds).asText), ?_⟩
    unfold run
    rw [runIn_bind, ht]
    rfl
  obtain ⟨d, hrun⟩ := hrun
  rw [hrun]
  cases holds with
  | false => exact ⟨_, rfl, .inl hprogress⟩
  | true =>
    rw [if_pos rfl]
    unfold transfer request?
    cases b.consequence with
    | proceed => exact ⟨_, rfl, .inl hprogress⟩
    | skipNext => exact ⟨_, rfl, .inr ⟨_, rfl, by rw [← hprogress]⟩⟩
    | jump => exact ⟨_, rfl, .inr ⟨_, rfl, by rw [← hprogress]⟩⟩
    | exit => exact ⟨_, rfl, .inr ⟨_, rfl, by rw [← hprogress]⟩⟩

/-! ## The ends of loops -/

namespace LoopEnd

/-- Whether the loop ends is decided without a trace in the progress of the step. -/
theorem runIn_leaves (l : LoopEnd) (n : Int) (s : Session) :
    ∃ b t, runIn s (l.leaves n) = (.ok b, t) ∧ t.progress = s.progress ∧
      (l.ending = .always → b = true) ∧
      (l.ending = .maxIterations → b = decide (l.maxIterations ≤ n)) := by
  unfold leaves
  split
  · next c hc =>
    obtain ⟨b, t, ht, hprogress⟩ := c.runIn_evaluate l.left l.right s
    refine ⟨b, t, ht, hprogress, fun h => ?_, fun h => ?_⟩
    · rw [h] at hc
      cases hc
    · rw [h] at hc
      cases hc
  · refine ⟨_, s, rfl, rfl, fun h => ?_, fun h => ?_⟩
    · simp [h]
    · simp [h]

/-- When a repetition has been counted, the loop is left with its count at zero, or control is sent
back. -/
theorem runIn_count (l : LoopEnd) (n : Int) (s : Session) :
    ∃ t, runIn s (l.count n) = (.ok (), t) ∧
      ((l.ending = .maxIterations → l.maxIterations ≤ n) ∧
          t.progress = { s.progress with iteration := 0 } ∨
        l.ending ≠ .always ∧ (l.ending = .maxIterations → n < l.maxIterations) ∧
          t.progress = { s.progress with iteration := n, control := some ⟨.loopBack, l.start⟩ }) := by
  obtain ⟨b, t, ht, hprogress, halways, hmax⟩ :=
    l.runIn_leaves n { s with progress := { s.progress with iteration := n } }
  have hrun : runIn s (l.count n) = runIn t (if b = true then do
        StepM.info ("Leaving loop after " ++ Number.intText n ++ " iteration(s)")
        setIteration 0
      else do
        StepM.info ("Loop iteration " ++ Number.intText n ++ " done, continuing")
        StepM.request .loopBack l.start) := by
    unfold count
    rw [runIn_bind]
    show runIn { s with progress := { s.progress with iteration := n } } (l.leaves n >>= _) = _
    rw [runIn_bind, ht]
  rw [hrun]
  cases b with
  | true =>
    refine ⟨_, rfl, .inl ⟨fun h => of_decide_eq_true (hmax h).symm, ?_⟩⟩
    show { t.progress with iteration := 0 } = _
    rw [hprogress]
  | false =>
    refine ⟨_, rfl, .inr ⟨fun h => Bool.false_ne_true (halways h), fun h => ?_, ?_⟩⟩
    · have := of_decide_eq_false (hmax h).symm
      omega
    · show { t.progress with control := some ⟨.loopBack, l.start⟩ } = _
      rw [hprogress]

/-- The body of the end of a loop: the start is not where it should be, or it does not come before,
or a repetition is counted. -/
theorem runIn_run (l : LoopEnd) (s : Session) :
    (∃ f, expectKind l.start (some startTag) s.kinds = .error f ∧
        runIn s l.run = (.error f, { s with inUse := true })) ∨
      (s.position ≤ l.start ∧ runIn s l.run =
        (.error (.control (.loopBackward l.start s.position)), { s with inUse := true })) ∨
      (∃ kind, expectKind l.start (some startTag) s.kinds = .ok kind) ∧
        (s.position = 0 ∨ l.start < s.position) ∧
        runIn s l.run = runIn { s with inUse := true } (l.count (s.progress.iteration + 1)) := by
  cases hkind : expectKind l.start (some startTag) s.kinds with
  | error f =>
    refine .inl ⟨f, rfl, ?_⟩
    unfold run
    rw [runIn_bind, runIn_lookUp, hkind]
  | ok kind =>
    right
    have hrun : runIn s l.run = runIn { s with inUse := true }
        (if s.position ≠ 0 ∧ s.position ≤ l.start then do
            throw (.control (.loopBackward l.start s.position))
            l.count (s.progress.iteration + 1)
          else l.count (s.progress.iteration + 1)) := by
      unfold run
      rw [runIn_bind, runIn_lookUp, hkind]
      rfl
    rw [hrun]
    -- A step without a position, which is then zero, passes the test whatever it refers to.
    by_cases hposition : s.position ≠ 0 ∧ s.position ≤ l.start
    · rw [if_pos hposition]
      exact .inl ⟨hposition.2, rfl⟩
    · rw [if_neg hposition]
      exact .inr ⟨⟨kind, rfl⟩, by omega, rfl⟩

end LoopEnd

/-! ## All of them -/

/-- A fault by which the attempt of an action may lose control: one that has nothing to do with where
control goes, or that of the end of a loop which does not find its start before itself. -/
def Action.Loses (a : Action) (s : Session) (f : Fault) : Prop :=
  f.isRouting = false ∨ ∃ l, a = .loopEnd l ∧
    (expectKind l.start (some LoopEnd.startTag) s.kinds = .error f ∨
      s.position ≤ l.start ∧ f = .control (.loopBackward l.start s.position))

/-- What the attempt of an action may come to, and the marks that it leaves on its step. -/
inductive Marks (a : Action) (s : Session) : Except Fault Bool → Progress → Prop where
  /-- A field is invalid: the step requests what it requested before. -/
  | invalid {p} (control : p.control = s.progress.control)
      (iteration : p.iteration = s.progress.iteration) : Marks a s (.ok false) p
  /-- The body fails and requests nothing. -/
  | failed {p} (control : p.control = none)
      (iteration : p.iteration = s.progress.iteration) : Marks a s (.ok false) p
  /-- Control is lost. -/
  | lost {f p} (why : a.Loses s f) (control : p.control = none)
      (iteration : p.iteration = s.progress.iteration) : Marks a s (.error f) p
  /-- The body succeeds and requests nothing. -/
  | passed {p} (kind : ∀ l, a ≠ .loopEnd l) (control : p.control = none)
      (iteration : p.iteration = s.progress.iteration) : Marks a s (.ok true) p
  /-- The condition of a branch holds. -/
  | branched {p} (b : Branch) (kind : a = .branch b) (r : Signal) (request : b.request? = some r)
      (control : p.control = some r)
      (iteration : p.iteration = s.progress.iteration) : Marks a s (.ok true) p
  /-- A loop is left. -/
  | left {p} (l : LoopEnd) (kind : a = .loopEnd l)
      (enough : l.ending = .maxIterations → l.maxIterations ≤ s.progress.iteration + 1)
      (control : p.control = none) (iteration : p.iteration = 0) : Marks a s (.ok true) p
  /-- A loop is repeated. -/
  | repeated {p} (l : LoopEnd) (kind : a = .loopEnd l)
      (stands : ∃ kind, expectKind l.start (some LoopEnd.startTag) s.kinds = .ok kind)
      (before : s.position = 0 ∨ l.start < s.position) (ending : l.ending ≠ .always)
      (few : l.ending = .maxIterations → s.progress.iteration + 1 < l.maxIterations)
      (control : p.control = some ⟨.loopBack, l.start⟩)
      (iteration : p.iteration = s.progress.iteration + 1) : Marks a s (.ok true) p

namespace StepM

/-- What a plain body comes to when it is attempted. -/
theorem marks_of_plain {a : Action} (h : a.IsPlain) (s : Session) :
    (∃ t, runIn (begun s) a.run = (.ok (), t) ∧ Marks a s (.ok true) t.progress) ∨
      ∃ f t, runIn (begun s) a.run = (.error f, t) ∧ a.Loses s f ∧ t.progress.control = none ∧
        t.progress.iteration = s.progress.iteration := by
  have hplain := a.plain_run h
  obtain ⟨hprogress, -⟩ := hplain.kept (begun s)
  have hspares := hplain.spares (begun s)
  rcases hrun : runIn (begun s) a.run with ⟨f | u, t⟩
  · rw [hrun] at hprogress hspares
    refine .inr ⟨f, t, rfl, .inl (hspares f rfl), ?_, ?_⟩
    · rw [hprogress]
      rfl
    · rw [hprogress]
      rfl
  · rw [hrun] at hprogress
    refine .inl ⟨t, rfl, .passed (fun l hl => ?_) ?_ ?_⟩
    · rw [hl] at h
      exact h
    · rw [hprogress]
      rfl
    · rw [hprogress]
      rfl

/-- What the body of an action comes to when it is attempted. -/
theorem marks_run (a : Action) (s : Session) :
    (∃ t, runIn (begun s) a.run = (.ok (), t) ∧ Marks a s (.ok true) t.progress) ∨
      ∃ f t, runIn (begun s) a.run = (.error f, t) ∧ a.Loses s f ∧ t.progress.control = none ∧
        t.progress.iteration = s.progress.iteration := by
  obtain ⟨b, rfl⟩ | ⟨l, rfl⟩ | h := a.kind_cases
  · obtain ⟨t, hrun, hprogress | ⟨r, hr, hprogress⟩⟩ := b.runIn_run (begun s)
    · refine .inl ⟨t, hrun, .passed (fun l hl => nomatch hl) ?_ ?_⟩
      · rw [hprogress]
        rfl
      · rw [hprogress]
        rfl
    · refine .inl ⟨t, hrun, .branched b rfl r hr ?_ ?_⟩
      · rw [hprogress]
      · rw [hprogress]
        rfl
  · obtain ⟨f, hkind, hrun⟩ | ⟨hposition, hrun⟩ | ⟨hkind, hposition, hrun⟩ := l.runIn_run (begun s)
    · exact .inr ⟨f, _, hrun, .inr ⟨l, rfl, .inl hkind⟩, rfl, rfl⟩
    · exact .inr ⟨_, _, hrun, .inr ⟨l, rfl, .inr ⟨hposition, rfl⟩⟩, rfl, rfl⟩
    · left
      obtain ⟨t, hcount, ⟨henough, hprogress⟩ | ⟨hending, hfew, hprogress⟩⟩ :=
        l.runIn_count ((begun s).progress.iteration + 1) { begun s with inUse := true }
      · refine ⟨t, hrun.trans hcount, .left l rfl henough ?_ ?_⟩
        · rw [hprogress]
          rfl
        · rw [hprogress]
      · refine ⟨t, hrun.trans hcount, .repeated l rfl hkind hposition hending hfew ?_ ?_⟩
        · rw [hprogress]
        · rw [hprogress]
          rfl
  · exact marks_of_plain h s

/-- All that the attempt of an action can do to the marks of its step. -/
theorem marks_guarded (a : Action) (s : Session) :
    Marks a s (runIn s (Engine.guarded (.action a))).1
      (runIn s (Engine.guarded (.action a))).2.progress := by
  have hrun := marks_run a s
  obtain ⟨f, hcheck, hguarded⟩ | ⟨t, ht, hguarded⟩ | ⟨f, t, ht, hguarded⟩ :=
    guarded_cases s (.action a)
  · -- The check of an action does not lose control, so the step fails and nothing is executed.
    have hcontrol := a.spares_check f hcheck
    obtain ⟨htrue, -⟩ | ⟨message, hguarded⟩ := hguarded
    · rw [hcontrol] at htrue
      cases htrue
    · rw [hguarded]
      exact .invalid rfl rfl
  · obtain ⟨t', ht', hmarks⟩ | ⟨f, t', ht', -⟩ := hrun
    · obtain rfl : t = t' := congrArg Prod.snd (ht.symm.trans ht')
      rw [hguarded]
      exact hmarks
    · cases congrArg Prod.fst (ht.symm.trans ht')
  · obtain ⟨t', ht', -⟩ | ⟨g, t', ht', hloses, hnone, hiteration⟩ := hrun
    · cases congrArg Prod.fst (ht.symm.trans ht')
    · obtain ⟨hf, rfl⟩ := Prod.mk.inj (ht.symm.trans ht')
      obtain rfl := Except.error.inj hf
      obtain ⟨-, hguarded⟩ | ⟨message, hguarded⟩ := hguarded
      · rw [hguarded]
        exact .lost hloses hnone hiteration
      · rw [hguarded]
        exact .failed hnone hiteration

end StepM

end Deskwork
