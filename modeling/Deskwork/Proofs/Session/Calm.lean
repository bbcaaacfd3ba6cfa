/-
# Steps That Do Not Re-enter

A probe may try to run its engine again while it is running. The attempt is refused, and the refusal
is all that remains of it: an entry of the log and a note of the attempt. So a step matches the calm
step, which does all the rest and leaves the attempts out (`matches_calm`): they find the same, and
but for the talk they lead to the same session.
-/
import Deskwork.Proofs.Run.Expansion
import Deskwork.Proofs.Session.Attempts

namespace Deskwork

open StepM

/-! ## Calm work -/

/-- The probe without its attempts to run its engine again. -/
def Probe.calm (p : Probe) : Probe :=
  { p with routine := fun visit => (p.routine visit).filter (· ≠ .reenter) }

/-- The work without its attempts to run its engine again. -/
def Work.calm : Work → Work
  | .action a => .action a
  | .probe p => .probe p.calm
  | .bare => .bare

namespace Work

variable (w : Work)

@[simp] theorem tag_calm : w.calm.tag = w.tag := by cases w <;> rfl

@[simp] theorem name_calm : w.calm.name = w.name := by cases w <;> rfl

@[simp] theorem references_calm : w.calm.references = w.references := by cases w <;> rfl

@[simp] theorem check_calm (visit : Nat) : w.calm.check visit = w.check visit := by
  cases w <;> rfl

@[simp] theorem isLoopEnd_calm : w.calm.isLoopEnd = w.isLoopEnd := by cases w <;> rfl

@[simp] theorem templateFields_calm : w.calm.templateFields = w.templateFields := by
  cases w <;> rfl

@[simp] theorem read_calm (name : String) : w.calm.read name = w.read name := by
  cases w <;> rfl

@[simp] theorem noteReset_calm (d : Desk) : w.calm.noteReset d = w.noteReset d := by
  cases w <;> rfl

theorem calm_write (name : String) (c : Template.Content) :
    (w.write name c).calm = w.calm.write name c := by
  cases w with
  | action a => rfl
  | bare => rfl
  | probe p =>
    show Work.probe (p.write name c).calm = Work.probe (p.calm.write name c)
    unfold Probe.write Probe.calm
    split
    · rfl
    · split <;> rfl

/-- The calm work with its templates expanded is the calm one of the work with its templates
expanded. -/
theorem expandFields_calm (bindings : List (String × Scalar)) (names : List String) (d : Desk) :
    expandFields bindings names w.calm d =
      ((expandFields bindings names w d).1, (expandFields bindings names w d).2.1.calm,
        (expandFields bindings names w d).2.2) := by
  induction names generalizing w d with
  | nil => rfl
  | cons n names ih =>
    rcases h : d.expandContent bindings (w.read n) with ⟨f | c, d'⟩
    · have h' : d.expandContent bindings (w.calm.read n) = (.error f, d') := by rw [read_calm, h]
      rw [expandFields_cons_of_error h, expandFields_cons_of_error h']
    · have h' : d.expandContent bindings (w.calm.read n) = (.ok c, d') := by rw [read_calm, h]
      rw [expandFields_cons_of_ok h, expandFields_cons_of_ok h', read_calm]
      split
      · exact ih w d'
      · rw [← calm_write, ih]

theorem expandWork_calm (d : Desk) (bindings : List (String × Scalar)) :
    Engine.expandWork w.calm d bindings =
      ((Engine.expandWork w d bindings).1.map calm, (Engine.expandWork w d bindings).2) := by
  unfold Engine.expandWork expand
  rw [templateFields_calm, expandFields_calm]
  cases (expandFields bindings w.templateFields w d).1 <;> rfl

end Work

/-! ## Deeds -/

/-- Closing a handle does not heed the talk. -/
theorem Handle.hushed_close (h : Handle) (key : String) (d : Desk) :
    (h.close key d.hushed).hushed = (h.close key d).hushed := by
  cases h with
  | closing label => exact d.hushed_record _
  | failing label =>
    unfold close Desk.warn
    rw [Desk.hushed_logged, Desk.hushed_logged]
    exact d.hushed_record _
  | inert => exact d.hushed_hushed
  | absent => exact d.hushed_hushed

/-- Registering a resource does not heed the talk. -/
theorem Context.hushed_register (c : Context) (d : Desk) (key : String) (h : Handle) :
    (c.register d.hushed key h).1 = (c.register d key h).1 ∧
      (c.register d.hushed key h).2.hushed = (c.register d key h).2.hushed := by
  unfold register release
  dsimp only
  split
  · exact ⟨rfl, Handle.hushed_close _ key d⟩
  · exact ⟨rfl, d.hushed_hushed⟩

namespace Deed

theorem heedless_register (key : String) (handle : Handle) : Heedless (register key handle) := by
  refine .of_image (fun s => rfl) fun s => ?_
  obtain ⟨hcontext, hdesk⟩ := s.context.hushed_register s.desk key handle
  show ({ s with
    desk := (s.context.register s.desk.hushed key handle).2.hushed
    context := (s.context.register s.desk.hushed key handle).1
    inUse := true } : Session) = _
  rw [hcontext, hdesk]
  rfl

theorem heedless_run (d : Deed) : Heedless d.run := by
  cases d with
  | reenter =>
    refine heedless_get (fun _ => rfl) fun s => ?_
    have hhappen (e : Event) : Heedless (happen e) := heedless_change fun t => t.hushed_record e
    split
    · exact matches_bind (heedless_change fun t => t.hushed_logged _ _ _) fun _ => hhappen _
    · exact hhappen _
  | lookUp position =>
    exact matches_bind (heedless_lookUp _ _) fun _ => (plain_happen rfl).heedless
  | request transfer target => exact heedless_request _ _
  | setVariable name value => exact (plain_setVariable _ _).heedless
  | openResource key handle => exact heedless_register key handle
  | disable position =>
    refine matches_bind (heedless_lookUp _ _) fun _ => heedless_change fun s => ?_
    simp [Session.hushed]
  | fail why => exact heedless_throw why

/-- What an attempt to run the engine again leaves behind in a session. -/
theorem runIn_runAgain (s : Session) :
    runIn s runAgain = (.ok (), { s with
      desk := if s.running then
          (s.desk.warn engineSource "A script is already running on this engine").record
            (.reentered false true)
        else s.desk.record (.reentered true false) }) := by
  unfold runAgain
  show runIn s (if s.running = true then _ else _) = _
  split
  · rfl
  · rfl

/-- An attempt to run the engine again is only talk. -/
theorem matches_reenter : Matches (Deed.reenter.run) (pure ()) := by
  intro s t hst
  show (runIn s runAgain).1 = .ok () ∧ (runIn s runAgain).2.hushed = t.hushed
  rw [runIn_runAgain]
  refine ⟨rfl, ?_⟩
  rw [← hst]
  unfold Session.hushed
  dsimp only
  split
  · rw [Desk.hushed_record_of_talk _ rfl]
    unfold Desk.warn
    rw [Desk.hushed_logged]
  · rw [Desk.hushed_record_of_talk _ rfl]

/-- Deeds match those among them that are no attempts to run the engine again. -/
theorem matches_forM (deeds : List Deed) :
    Matches (deeds.forM run) ((deeds.filter (· ≠ .reenter)).forM run) := by
  induction deeds with
  | nil => exact heedless_pure _
  | cons d deeds ih =>
    by_cases hd : d = .reenter
    · subst hd
      exact matches_bind (y := pure ()) matches_reenter fun _ => ih
    · rw [List.filter_cons_of_pos (by simpa using hd)]
      exact matches_bind d.heedless_run fun _ => ih

end Deed

/-! ## Whole steps -/

/-- A probe notes the visit and does the deeds of its routine. -/
theorem Probe.runIn_run (p : Probe) (s : Session) :
    runIn s p.run =
      runIn { s with desk := s.desk.record (.visited p.label p.items s.position) }
        ((p.routine s.progress.visits).forM Deed.run) := rfl

/-- A probe matches the calm probe. -/
theorem Probe.matches_calm (p : Probe) : Matches p.run p.calm.run := by
  intro s t hst
  have hposition : s.position = t.position :=
    show s.hushed.position = t.hushed.position by rw [hst]
  have hprogress : s.progress = t.progress :=
    show s.hushed.progress = t.hushed.progress by rw [hst]
  have hnoted : ({ s with desk := s.desk.record (.visited p.label p.items s.position) } :
      Session).hushed =
      ({ t with desk := t.desk.record (.visited p.label p.items t.position) } : Session).hushed := by
    rw [← s.hushed_record, ← t.hushed_record, hst, hposition]
  have hdeeds := Deed.matches_forM (p.routine t.progress.visits) _ _ hnoted
  rw [← hprogress] at hdeeds
  dsimp only
  rw [p.runIn_run, p.calm.runIn_run, ← hprogress]
  exact hdeeds

/-- The body of a step matches that of the calm step. -/
theorem Work.matches_calm (w : Work) : Matches w.run w.calm.run := by
  cases w with
  | action a => exact a.heedless_run
  | probe p => exact p.matches_calm
  | bare => exact heedless_throw _

/-- The attempt of a step matches that of the calm step. -/
theorem StepM.matches_calm (w : Work) : Matches (Engine.guarded w) (Engine.guarded w.calm) :=
  matches_guarded (fun n => (w.check_calm n).symm) w.matches_calm

end Deskwork
