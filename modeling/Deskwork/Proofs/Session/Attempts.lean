/-
# Attempts

Checking and executing a step, with faults turned into failures, adds only touches to those of its
body. So whatever the touches keep, whole attempts keep (`kept_guarded`), the attempt of an action
switches no step off (`disabled_guarded`), and it ignores what the body ignores
(`ignores_guarded`): the count of visits, and the other steps unless a loop ends there.
-/
import Deskwork.Proofs.Session.Bodies

namespace Deskwork

open Relation

/-! ## Handles -/

theorem Handle.steady_close (key : String) (d : Desk) (h : Handle) : d.Steady (h.close key d) := by
  cases h with
  | closing label => exact d.steady_record rfl
  | failing label =>
    exact (d.steady_record (e := .closed label) rfl).trans (Desk.steady_logged _ _ _ _)
  | inert => exact .refl d
  | absent => exact .refl d

namespace Context

theorem steady_release (c : Context) (d : Desk) (key : String) :
    d.Steady (c.release d key).2.2 := by
  unfold release
  dsimp only
  split
  · exact Handle.steady_close key d _
  · exact .refl d

theorem hooked_release (c : Context) (d : Desk) (key : String) :
    (c.release d key).2.1.hooked = c.hooked := by
  unfold release
  dsimp only
  split
  · rfl
  · rfl

/-- Clearing a context leaves the desk steady. -/
theorem steady_clear (c : Context) (d : Desk) : d.Steady (c.clear d).2 := by
  unfold clear closeAll
  dsimp only
  induction c.resources generalizing d with
  | nil => exact .refl d
  | cons r rest ih => exact (r.2.steady_close r.1 d).trans (ih (r.2.close r.1 d))

end Context

/-! ## What sessions keep -/

namespace Session

/-- What no body changes of its session. -/
structure Kept (s t : Session) : Prop where
  /-- The desk stays steady. -/
  desk : s.desk.Steady t.desk
  /-- The same number of visits is counted. -/
  visits : t.progress.visits = s.progress.visits
  /-- The same one takes care of pauses. -/
  hooked : t.context.hooked = s.context.hooked

theorem Kept.refl (s : Session) : s.Kept s := ⟨.refl _, rfl, rfl⟩

theorem Kept.trans {s t u : Session} (h : s.Kept t) (h' : t.Kept u) : s.Kept u :=
  ⟨h.desk.trans h'.desk, h'.visits.trans h.visits, h'.hooked.trans h.hooked⟩

end Session

theorem Touch.kept {s t : Session} (h : Touch s t) : s.Kept t := by
  cases h with
  | logs level source message => exact ⟨s.desk.steady_logged level source message, rfl, rfl⟩
  | happens event unreserved => exact ⟨(s.desk.quiet_record unreserved).steady, rfl, rfl⟩
  | turns => exact ⟨⟨rfl, rfl, rfl⟩, rfl, rfl⟩
  | uses => exact ⟨.refl _, rfl, rfl⟩
  | binds => exact ⟨.refl _, rfl, rfl⟩
  | keeps => exact ⟨.refl _, rfl, rfl⟩
  | marks => exact ⟨.refl _, rfl, rfl⟩

/-- A touch switches no step off. -/
theorem Touch.disabled_eq {s t : Session} (h : Touch s t) : t.disabled = s.disabled := by
  cases h <;> rfl

/-- A touch leaves the kinds of the other steps as they are. -/
theorem Touch.kinds_eq {s t : Session} (h : Touch s t) : t.kinds = s.kinds := by
  cases h <;> rfl

theorem Meddling.kept {s t : Session} (h : Meddling s t) : s.Kept t := by
  cases h with
  | touches h => exact h.kept
  | registers key handle =>
    exact ⟨s.context.steady_release s.desk key, rfl, s.context.hooked_release s.desk key⟩
  | disables position => exact ⟨.refl _, rfl, rfl⟩
  | reenters result running => exact ⟨s.desk.steady_record rfl, rfl, rfl⟩

/-- What no meddling changes, no number of meddlings changes. -/
theorem kept_of_meddlings {s t : Session} (h : ReflTransGen Meddling s t) : s.Kept t := by
  induction h with
  | refl => exact .refl s
  | tail _ last ih => exact ih.trans last.kept

/-- Whether the engine is running, and the kinds of the other steps, stay while a probe runs. -/
theorem setting_of_meddlings {s t : Session} (h : ReflTransGen Meddling s t) :
    t.running = s.running ∧ t.kinds = s.kinds := by
  have hone {s t : Session} (h : Meddling s t) : t.running = s.running ∧ t.kinds = s.kinds := by
    cases h with
    | touches h => cases h <;> exact ⟨rfl, rfl⟩
    | _ => exact ⟨rfl, rfl⟩
  induction h with
  | refl => exact ⟨rfl, rfl⟩
  | tail _ last ih => exact ⟨(hone last).1.trans ih.1, (hone last).2.trans ih.2⟩

namespace StepM

variable {T : Session → Session → Prop}

/-! ## Attempts -/

/-- To begin is a touch. -/
theorem touch_begun (s : Session) : Touch s (begun s) :=
  .marks s none none s.progress.iteration

/-- To log an error about oneself takes two touches. -/
theorem touches_erred (s : Session) (message : String) : ReflTransGen Touch s (erred s message) :=
  .head (.logs s .error s.name message)
    (.single (.marks _ (some message) s.progress.control s.progress.iteration))

/-- Executing adds touches to the body. -/
theorem within_execute (hT : Touch ≤ T) {body : StepM Unit} (h : Within T body) :
    Within T (execute body) := by
  intro s
  have hs : ReflTransGen T s (runIn (begun s) body).2 :=
    .head (hT _ _ (touch_begun s)) (h (begun s))
  rw [runIn_execute]
  generalize runIn (begun s) body = p at hs ⊢
  obtain ⟨r, t⟩ := p
  cases r with
  | ok a => exact hs
  | error f =>
    -- What the body reports about its step is logged; that adds touches of its own.
    dsimp only
    split
    · exact hs.trans (ReflTransGen.mono hT _ _ (touches_erred t f.message))
    · exact hs

theorem within_attempt (hT : Touch ≤ T) {w : Work} (h : Within T w.run) :
    Within T (attempt w) := by
  intro s
  rw [runIn_attempt]
  split
  · exact within_execute hT h s
  · exact ReflTransGen.mono hT _ _ (touches_erred s _)
  · exact .refl

/-- A whole attempt adds touches to the body. -/
theorem within_guarded (hT : Touch ≤ T) {w : Work} (h : Within T w.run) :
    Within T (Engine.guarded w) := by
  intro s
  have hs := within_attempt hT h s
  rw [runIn_guarded]
  generalize runIn s (attempt w) = p at hs ⊢
  obtain ⟨r, t⟩ := p
  cases r with
  | ok a => exact hs
  | error f =>
    dsimp only
    split
    · exact hs
    · exact hs.trans (ReflTransGen.mono hT _ _ (touches_erred t _))

/-- An attempt keeps what bodies keep. -/
theorem kept_guarded (s : Session) (w : Work) : s.Kept (runIn s (Engine.guarded w)).2 :=
  kept_of_meddlings (within_guarded Touch.le_meddling w.within_run s)

/-- What no touch changes, the attempt of an action leaves as it is. -/
theorem eq_of_guarded {β : Type} {f : Session → β} (hf : ∀ s t, Touch s t → f t = f s)
    (s : Session) (a : Action) : f (runIn s (Engine.guarded (.action a))).2 = f s := by
  have h := within_guarded (T := Touch) (fun _ _ h => h) (w := .action a) a.within_run s
  generalize (runIn s (Engine.guarded (.action a))).2 = t at h
  induction h with
  | refl => rfl
  | tail _ last ih => exact (hf _ _ last).trans ih

/-- The attempt of an action switches no step off. -/
theorem disabled_guarded (s : Session) (a : Action) :
    (runIn s (Engine.guarded (.action a))).2.disabled = s.disabled :=
  eq_of_guarded (f := Session.disabled) (fun _ _ h => h.disabled_eq) s a

/-- The attempt of an action leaves the kinds of the other steps as they are. -/
theorem kinds_guarded (s : Session) (a : Action) :
    (runIn s (Engine.guarded (.action a))).2.kinds = s.kinds :=
  eq_of_guarded (f := Session.kinds) (fun _ _ h => h.kinds_eq) s a

/-- Only a loss of control gets out of an attempt. -/
theorem isControl_of_guarded {s t : Session} {w : Work} {f : Fault}
    (h : runIn s (Engine.guarded w) = (.error f, t)) : f.isControl = true := by
  rw [runIn_guarded] at h
  rcases ha : runIn s (attempt w) with ⟨r, t'⟩
  rw [ha] at h
  cases r with
  | ok a => simp at h
  | error g =>
    by_cases hg : g.isControl = true
    · simp only [hg, if_true, Prod.mk.injEq, Except.error.injEq] at h
      exact h.1 ▸ hg
    · simp [hg] at h

/-- A step whose check finds a fault does not succeed, and at most it logs an error. -/
theorem guarded_of_check {s : Session} {w : Work} {f : Fault}
    (h : w.check s.progress.visits = .error f) :
    (runIn s (Engine.guarded w)).1 ≠ .ok true ∧ ((runIn s (Engine.guarded w)).2 = s ∨
      ∃ message, (runIn s (Engine.guarded w)).2 = erred s message) := by
  rw [runIn_guarded, runIn_attempt]
  simp only [h]
  cases f with
  | invalid why => exact ⟨by simp, .inr ⟨_, rfl⟩⟩
  | _ =>
    dsimp only
    split
    · exact ⟨by simp, .inl rfl⟩
    · exact ⟨by simp, .inr ⟨_, rfl⟩⟩

/-! ## Matching -/

section

variable {w w' : Work}

theorem hushed_erred (s : Session) (message : String) :
    (erred s.hushed message).hushed = (erred s message).hushed := by
  unfold erred Desk.error
  simp [Session.hushed]

theorem erred_congr {s t : Session} (h : s.hushed = t.hushed) (message : String) :
    (erred s message).hushed = (erred t message).hushed := by
  rw [← hushed_erred s, ← hushed_erred t, h]

theorem matches_execute {body body' : StepM Unit} (h : Matches body body') :
    Matches (execute body) (execute body') := by
  intro s t hst
  have hbegun : (begun s).hushed = (begun t).hushed :=
    show begun s.hushed = begun t.hushed by rw [hst]
  obtain ⟨hfound, hstate⟩ := h _ _ hbegun
  dsimp only at hfound hstate ⊢
  rw [runIn_execute, runIn_execute]
  generalize runIn (begun s) body = p at hfound hstate ⊢
  generalize runIn (begun t) body' = q at hfound hstate ⊢
  obtain ⟨r, s'⟩ := p
  obtain ⟨r', t'⟩ := q
  obtain rfl : r = r' := hfound
  cases r with
  | ok a => exact ⟨rfl, hstate⟩
  | error f =>
    dsimp only
    split
    · exact ⟨rfl, erred_congr hstate _⟩
    · exact ⟨rfl, hstate⟩

theorem matches_attempt (hcheck : ∀ n, w.check n = w'.check n) (h : Matches w.run w'.run) :
    Matches (attempt w) (attempt w') := by
  intro s t hst
  have hvisits : s.progress.visits = t.progress.visits :=
    show s.hushed.progress.visits = t.hushed.progress.visits by rw [hst]
  dsimp only
  rw [runIn_attempt, runIn_attempt, hcheck, hvisits]
  generalize w'.check t.progress.visits = c
  rcases c with f | u
  · cases f with
    | invalid why => exact ⟨rfl, erred_congr hst _⟩
    | _ => exact ⟨rfl, hst⟩
  · exact matches_execute h s t hst

/-- The attempts of two steps match when they are checked in the same way and their bodies match. -/
theorem matches_guarded (hcheck : ∀ n, w.check n = w'.check n) (h : Matches w.run w'.run) :
    Matches (Engine.guarded w) (Engine.guarded w') := by
  intro s t hst
  obtain ⟨hfound, hstate⟩ := matches_attempt hcheck h s t hst
  dsimp only at hfound hstate ⊢
  rw [runIn_guarded, runIn_guarded]
  generalize runIn s (attempt w) = p at hfound hstate ⊢
  generalize runIn t (attempt w') = q at hfound hstate ⊢
  obtain ⟨r, s'⟩ := p
  obtain ⟨r', t'⟩ := q
  obtain rfl : r = r' := hfound
  cases r with
  | ok ok => exact ⟨rfl, hstate⟩
  | error f =>
    dsimp only
    split
    · exact ⟨rfl, hstate⟩
    · exact ⟨rfl, erred_congr hstate _⟩

end

/-! ## Blindness -/

section

variable {k : Nat} {kinds : Option (List String) → Option (List String)} {a : Action}

theorem ignores_execute {body : StepM Unit} (h : Ignores (beside k kinds) body) :
    Ignores (beside k kinds) (execute body) := by
  intro s
  rw [runIn_execute, runIn_execute]
  have hbegun : begun (beside k kinds s) = beside k kinds (begun s) := rfl
  rw [hbegun, h (begun s)]
  rcases runIn (begun s) body with ⟨r, t⟩
  cases r with
  | ok a => rfl
  | error f =>
    dsimp only
    split
    · rfl
    · rfl

theorem ignores_attempt (h : Ignores (beside k kinds) a.run) :
    Ignores (beside k kinds) (attempt (.action a)) := by
  intro s
  have hcheck : (Work.action a).check (beside k kinds s).progress.visits =
      (Work.action a).check s.progress.visits := rfl
  rw [runIn_attempt, runIn_attempt, hcheck]
  generalize (Work.action a).check s.progress.visits = c
  rcases c with f | u
  · cases f <;> rfl
  · exact ignores_execute h s

/-- The attempt of an action ignores what the body ignores. -/
theorem ignores_guarded (h : Ignores (beside k kinds) a.run) :
    Ignores (beside k kinds) (Engine.guarded (.action a)) := by
  intro s
  rw [runIn_guarded, runIn_guarded, ignores_attempt h s]
  rcases runIn s (attempt (.action a)) with ⟨r, t⟩
  cases r with
  | ok ok => rfl
  | error f =>
    dsimp only
    split
    · rfl
    · rfl

end

/-- The attempt of an action does not look at the count of visits. -/
theorem blind_guarded (a : Action) (n : Nat) : Ignores (ahead n) (Engine.guarded (.action a)) :=
  ignores_guarded (a.ignores_run fun _ _ _ => rfl)

end StepM

end Deskwork
