/-
# Runs That Return

Whether a run returns is decided before its steps can do anything about it: the log must accept
entries, and every attempted step must get its templates expanded. The only expansion that fails is
that of a text with tokens while the user cannot be found out (`run_returns_iff`). A run that
returns announces its end once and last; a run that is interrupted announces none.
-/
import Deskwork.Proofs.Run.Whole

namespace Deskwork

open Template

/-! ## Interrupting visits -/

namespace Visit

/-- A fault that is no loss of control gets out of a visit exactly when a template of the attempted
step may hold tokens while the user cannot be found out. -/
theorem result_eq_error_iff_tokens (v : Visit) {f : Fault} (hf : f.isControl = false) :
    v.result = .error f ↔
      v.attempted = true ∧ (∃ t ∈ v.slot.work.templateTexts, mayHoldTokens t = true) ∧
        v.before.desk.userName = .error f := by
  rw [v.result_eq_error_iff hf, v.readied_eq_error_iff]

theorem broken_iff (v : Visit) :
    v.broken = true ↔ ∃ f, v.result = .error f ∧ f.isControl = false := by
  unfold broken
  rcases v.result with f | ok
  · simp
  · simp

/-- Where a visit breaks the run off, the run ends with the fault of the visit. -/
theorem result_of_ending {v : Visit} {success : Bool} {f : Fault}
    (h : v.ending success = .broken f) : v.result = .error f ∧ f.isControl = false := by
  unfold ending at h
  rcases hr : v.result with g | _ | _
  · rw [hr] at h
    by_cases hg : g.isControl = true
    · simp [hg] at h
    · obtain rfl : g = f := by simpa [hg] using h
      exact ⟨rfl, by simpa using hg⟩
  · rw [hr] at h
    cases h
  · rw [hr] at h
    dsimp only at h
    split at h
    · cases h
    · cases h

end Visit

namespace Passage

variable {index : Nat} {success : Bool} {e e' : Engine} {vs : List Visit} {ending : Ending}

/-- The user stays the same, or the reason not to know it, throughout a run. -/
theorem userName_eq (h : Passage index success e vs ending e') :
    ∀ v ∈ vs, v.before.desk.userName = e.desk.userName := by
  have hreach {index : Nat} {e : Engine} {v : Visit}
      (h : e.reach index = (some (v.index, v.slot), v.before)) :
      v.before.desk.userName = e.desk.userName := by
    obtain ⟨⟨d, current, hbefore, hd⟩, -⟩ := Engine.reach_some h
    rw [hbefore]
    exact hd.userName
  induction h with
  | finish _ => simp
  | stop v h _ => simpa using hreach h
  | go v h hl _ ih =>
    intro w hw
    rcases List.mem_cons.mp hw with rfl | hw
    · exact hreach h
    · -- Whatever the step did, it did not change who uses the machine.
      rw [ih w hw]
      have hgains := gains_visit h (Visit.of_landing hl).1
      unfold Desk.userName
      rw [hgains.user]

/-- The fault that breaks a run off is that of one of its visits. -/
theorem result_of_broken {f : Fault} (h : Passage index success e vs ending e')
    (hf : ending = .broken f) : ∃ v ∈ vs, v.result = .error f ∧ f.isControl = false := by
  induction h with
  | finish _ => cases hf
  | stop v _ _ => exact ⟨v, by simp, Visit.result_of_ending hf⟩
  | go v _ _ _ ih =>
    obtain ⟨w, hw, hresult⟩ := ih hf
    exact ⟨w, List.mem_cons_of_mem v hw, hresult⟩

/-- A run that is broken off gains a note for every visit but the last. -/
theorem gains_of_broken (h : Passage index success e vs ending e')
    (hb : ∃ v ∈ vs, v.broken = true) :
    e.desk.Gains e'.desk (e.notes (vs.dropLast.map Visit.notice)) := by
  induction h with
  | finish _ => simp at hb
  | stop v h _ =>
    obtain ⟨⟨d, current, hbefore, hd⟩, -⟩ := Engine.reach_some h
    have hdesk : v.before.desk = d := by rw [hbefore]
    -- The visit that broke the run off is the last one, and it took no note.
    rw [v.settled_of_broken (by simpa using hb), List.dropLast_singleton, List.map_nil,
      Engine.notes_nil]
    exact ((hdesk ▸ hd).trans v.steady_after).gains
  | @go index success e next vs ending e' v h hl _ ih =>
    have hv := (Visit.of_landing hl).1
    have hrest : ∃ w ∈ vs, w.broken = true := by simpa [hv] using hb
    have hne : vs ≠ [] := by
      rintro rfl
      simp at hrest
    have hgains := ih hrest
    rw [Engine.notes_congr (moved_visit h).observer] at hgains
    rw [List.dropLast_cons_of_ne_nil hne, List.map_cons, ← List.singleton_append,
      Engine.notes_append]
    exact (gains_visit h hv).trans hgains

end Passage

/-! ## Interrupted runs -/

namespace Engine

/-- The run that has begun comes to a step with a template that may hold tokens, but the user cannot
be found out: a fault that is no loss of control. -/
def Interrupted (e : Engine) (f : Fault) : Prop :=
  e.desk.userName = .error f ∧ f.isControl = false ∧
    ∃ v ∈ e.trail, v.attempted = true ∧
      ∃ t ∈ v.slot.work.templateTexts, mayHoldTokens t = true

theorem userName_trail {e : Engine} : ∀ v ∈ e.trail, v.before.desk.userName = e.desk.userName := by
  intro v hv
  cases h : e.prepare.1 with
  | some why =>
    rw [(trail_of_problem h).1] at hv
    cases hv
  | none => rw [(passage_trail h).userName_eq v hv, e.prepare_snd.1.userName]

/-- The steps of a run break it off exactly when it is interrupted. -/
theorem ended_eq_broken_iff (e : Engine) (f : Fault) :
    e.ended.1 = .broken f ↔ e.Interrupted f := by
  have hinterrupted {g : Fault} (hg : e.ended.1 = .broken g) : e.Interrupted g := by
    cases h : e.prepare.1 with
    | some why =>
      rw [(trail_of_problem h).2] at hg
      cases hg
    | none =>
      obtain ⟨v, hv, hresult, hcontrol⟩ := (passage_trail h).result_of_broken hg
      obtain ⟨ha, ht, hu⟩ := (v.result_eq_error_iff_tokens hcontrol).mp hresult
      exact ⟨(userName_trail v hv).symm.trans hu, hcontrol, v, hv, ha, ht⟩
  constructor
  · exact hinterrupted
  · rintro ⟨hu, hcontrol, v, hv, ha, ht⟩
    have hresult : v.result = .error f :=
      (v.result_eq_error_iff_tokens hcontrol).mpr ⟨ha, ht, (userName_trail v hv).trans hu⟩
    have hbroken : v.broken = true := v.broken_iff.mpr ⟨f, hresult, hcontrol⟩
    have hspec := e.ended_spec
    cases hended : e.ended.1 with
    | finished ok =>
      rw [hended] at hspec
      rw [hspec.1 v hv] at hbroken
      cases hbroken
    | lost g =>
      rw [hended] at hspec
      rw [hspec.1 v hv] at hbroken
      cases hbroken
    | broken g =>
      -- There is only one reason not to know the user.
      obtain ⟨hu', -⟩ := hinterrupted hended
      rw [hu] at hu'
      rw [Except.error.inj hu']

/-- A run of an idle engine raises a fault exactly when the log refuses it or the run is
interrupted. -/
theorem run_raises_iff {e : Engine} (h : e.running = false) (slots : Option (List Slot))
    (f : Fault) :
    (e.run slots).1 = .error f ↔
      e.desk.log.ready = .error f ∨
        e.desk.log.ready = .ok () ∧ (e.begun slots).Interrupted f := by
  cases hready : e.desk.log.ready with
  | error g =>
    rw [run_of_not_ready h hready]
    simp
  | ok u =>
    rw [run_eq h hready, ← ended_eq_broken_iff]
    cases (e.begun slots).ended.1 with
    | finished ok => simp [conclude]
    | lost g => simp [conclude]
    | broken g => simp [conclude]

/-- A run that raises has told who watches of some of its visits, and of no end. -/
theorem notices_of_raised {e : Engine} (h : e.running = false) {slots : Option (List Slot)}
    {f : Fault} (hrun : (e.run slots).1 = .error f) :
    ∃ vs, vs <+: (e.begun slots).trail ∧
      (e.run slots).2.desk.notices = e.desk.notices ++ e.notes (vs.map Visit.notice) := by
  cases hready : e.desk.log.ready with
  | error g =>
    rw [run_of_not_ready h hready]
    refine ⟨[], List.nil_prefix, ?_⟩
    have hsteady := (e.steady_opened slots).trans (e.opened slots).steady_clearContext
    rw [List.map_nil, notes_nil, List.append_nil]
    exact hsteady.notices
  | ok u =>
    rw [run_raises_iff h, hready] at hrun
    obtain hended := ((e.begun slots).ended_eq_broken_iff f).mpr (by simpa using hrun)
    have hspec := (e.begun slots).ended_spec
    rw [hended] at hspec
    refine ⟨(e.begun slots).trail.dropLast, List.dropLast_prefix _, ?_⟩
    have hprepare : (e.begun slots).prepare.1 = none := by
      cases hp : (e.begun slots).prepare.1 with
      | none => rfl
      | some why =>
        rw [(trail_of_problem hp).2] at hended
        cases hended
    have hgains := (passage_trail hprepare).gains_of_broken hspec.1
    rw [notes_congr (e.begun slots).prepare_snd.2.1] at hgains
    have hall := ((e.steady_begun slots).trans (e.begun slots).prepare_snd.1).gain hgains
    rw [run_eq h hready, hended]
    exact (hall.steady (steady_clearContext _)).notices

end Engine

/-! ## The result -/

/-- An idle engine returns from a run exactly when its log accepts entries and the run is not
interrupted. The run that returns has told who watches of every visit in order, and then once of its
end and result; the run that raises has told of no end. -/
theorem run_returns_iff {e : Engine} (h : e.running = false) (slots : Option (List Slot)) :
    ((∃ ok, (e.run slots).1 = .ok ok) ↔
        e.desk.log.ready = .ok () ∧ ∀ f, ¬ (e.begun slots).Interrupted f) ∧
      (∀ ok, (e.run slots).1 = .ok ok →
        (e.run slots).2.desk.notices = e.desk.notices ++
          e.notes ((e.begun slots).trail.map Visit.notice
            ++ [(e.begun slots).ended.2.completion ok])) ∧
      ∀ f, (e.run slots).1 = .error f → ∃ vs, vs <+: (e.begun slots).trail ∧
        (e.run slots).2.desk.notices = e.desk.notices ++ e.notes (vs.map Visit.notice) := by
  refine ⟨?_, fun ok hok => ?_, fun f hf => Engine.notices_of_raised h hf⟩
  · have hraises := Engine.run_raises_iff h slots
    constructor
    · rintro ⟨ok, hok⟩
      rw [hok] at hraises
      cases hready : e.desk.log.ready with
      | error f => exact absurd (.inl hready) fun hf => nomatch (hraises f).mpr hf
      | ok u => exact ⟨rfl, fun f hf => nomatch (hraises f).mpr (.inr ⟨hready, hf⟩)⟩
    · rintro ⟨hready, hnot⟩
      cases hr : (e.run slots).1 with
      | ok ok => exact ⟨ok, rfl⟩
      | error f =>
        rcases (hraises f).mp hr with hf | ⟨-, hf⟩
        · rw [hready] at hf
          cases hf
        · exact absurd hf (hnot f)
  · have hreturned := Engine.run_returned h (Prod.ext hok rfl)
    exact ((e.steady_begun slots).gain hreturned.gains).notices

/-- An engine that is to type the name of a user who cannot be found out. -/
def strayEngine : Engine :=
  let machine := { Desk.blank.machine with user := .error ⟨"ValueError", some "no user"⟩ }
  .new { Desk.blank with machine := machine }
    [.ofStep ⟨true, false, .keyboard ⟨.typeText, "%user%", "", some [], 10⟩⟩] false 10 .record

/-- A run that raises although the log accepts entries: it announces no end. -/
theorem run_returns_iff_stray :
    strayEngine.running = false ∧ strayEngine.desk.log.ready = .ok () ∧
      (strayEngine.run none).1 = .error (.foreign ⟨"ValueError", some "no user"⟩) ∧
      ¬ (strayEngine.desk.log.ready = .ok () ∧ ∀ f, ¬ (strayEngine.begun none).Interrupted f) ∧
      (strayEngine.run none).2.desk.notices = [] := by
  have hrun : (strayEngine.run none).1 = .error (.foreign ⟨"ValueError", some "no user"⟩) := rfl
  refine ⟨rfl, rfl, hrun, fun hreturns => ?_, rfl⟩
  obtain ⟨ok, hok⟩ := (run_returns_iff rfl none).1.mpr hreturns
  rw [hrun] at hok
  cases hok

end Deskwork
