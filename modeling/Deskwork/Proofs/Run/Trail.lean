/-
# The Trail of a Run

The visits of a run, in order. The steps of a run unfold along them (`passage_steps`): every visit
but the last lands somewhere, and the next one is at the first enabled step from there on. What one
visit does, a whole run does by induction along its trail.
-/
import Deskwork.Proofs.Run.Moves

namespace Deskwork

/-! ## Visits in order -/

namespace Engine

/-- The visits from the step at `index` on, when at most `budget` more steps may be attempted. -/
def visits : (budget index : Nat) → Engine → List Visit
  | budget, index, e =>
    match e.reach index with
    | (none, _) => []
    | (some (index, s), e) =>
      match budget with
      | 0 => [⟨index, s, e, false⟩]
      | budget + 1 =>
        let v : Visit := ⟨index, s, e, true⟩
        match v.landing with
        | none => [v]
        | some next => v :: visits budget next v.settled

end Engine

/-- The steps of a run from an index on: its visits, how it comes to an end, and the engine then. -/
inductive Passage : Nat → Bool → Engine → List Visit → Ending → Engine → Prop where
  /-- No enabled step is left. -/
  | finish {index success e e'} (h : e.reach index = (none, e')) :
      Passage index success e [] (.finished success) e'
  /-- The run ends at a visit. -/
  | stop {index success e} (v : Visit) (h : e.reach index = (some (v.index, v.slot), v.before))
      (stops : v.landing = none) : Passage index success e [v] (v.ending success) v.settled
  /-- The run goes on after a visit. -/
  | go {index success e next vs ending e'} (v : Visit)
      (h : e.reach index = (some (v.index, v.slot), v.before)) (lands : v.landing = some next)
      (rest : Passage next (success && v.ok) v.settled vs ending e') :
      Passage index success e (v :: vs) ending e'

namespace Engine

theorem visits_of_none {budget index : Nat} {e e' : Engine} (h : e.reach index = (none, e')) :
    visits budget index e = [] := by
  unfold visits
  rw [h]

theorem visits_zero {index j : Nat} {e e' : Engine} {s : Slot}
    (h : e.reach index = (some (j, s), e')) : visits 0 index e = [⟨j, s, e', false⟩] := by
  unfold visits
  rw [h]

theorem visits_succ {budget index j : Nat} {e e' : Engine} {s : Slot}
    (h : e.reach index = (some (j, s), e')) :
    visits (budget + 1) index e =
      match (⟨j, s, e', true⟩ : Visit).landing with
      | none => [⟨j, s, e', true⟩]
      | some next => ⟨j, s, e', true⟩ :: visits budget next (⟨j, s, e', true⟩ : Visit).settled := by
  rw [visits]
  simp only [h]

theorem steps_of_none {budget index : Nat} {success : Bool} {e e' : Engine}
    (h : e.reach index = (none, e')) : steps budget index success e = (.finished success, e') := by
  unfold steps
  rw [show e.passDisabled e.slots.length index (e.slots.drop index) = (none, e') from h]

/-- A step too many is not attempted: control is lost at it. -/
theorem steps_zero {index j : Nat} {success : Bool} {e e' : Engine} {s : Slot}
    (h : e.reach index = (some (j, s), e')) :
    steps 0 index success e =
      ((⟨j, s, e', false⟩ : Visit).ending success, (⟨j, s, e', false⟩ : Visit).settled) := by
  unfold steps
  rw [show e.passDisabled e.slots.length index (e.slots.drop index) = (some (j, s), e') from h]
  rfl

/-- The steps of a run go from visit to visit. -/
theorem steps_succ {budget index j : Nat} {success : Bool} {e e' : Engine} {s : Slot}
    (h : e.reach index = (some (j, s), e')) :
    steps (budget + 1) index success e =
      match (⟨j, s, e', true⟩ : Visit).landing with
      | none =>
        ((⟨j, s, e', true⟩ : Visit).ending success, (⟨j, s, e', true⟩ : Visit).settled)
      | some next =>
        steps budget next (success && (⟨j, s, e', true⟩ : Visit).ok)
          (⟨j, s, e', true⟩ : Visit).settled := by
  have hsettle : (⟨j, s, e', true⟩ : Visit).after.settle j s success _ = _ :=
    (⟨j, s, e', true⟩ : Visit).settle_eq success
  generalize hv : (⟨j, s, e', true⟩ : Visit) = v at hsettle ⊢
  have hexecute : e'.executeOne j s = (v.result, v.after) := by
    obtain ⟨⟨d, current, hbefore, -⟩, -, -, hslot, -⟩ := reach_some h
    rw [executeOne_eq (by rw [hbefore]; exact hslot), ← hv]
    rfl
  have hreach : e.passDisabled e.slots.length index (e.slots.drop index) = (some (j, s), e') := h
  rw [steps]
  simp only [hreach, hexecute, hsettle]
  cases v.landing with
  | none => rfl
  | some next => rfl

/-- The visits within the budget are attempts, and the one beyond is not. -/
theorem attempted_visits {budget index k : Nat} {e : Engine} {v : Visit}
    (h : (visits budget index e)[k]? = some v) : v.attempted = decide (k < budget) := by
  -- Every attempt uses up one step of the budget; the visit without budget is the only other one.
  induction budget generalizing index e k with
  | zero =>
    rcases hr : e.reach index with ⟨_ | ⟨j, s⟩, e'⟩
    · rw [visits_of_none hr] at h
      cases h
    · rw [visits_zero hr, List.getElem?_singleton] at h
      split at h
      · obtain rfl := Option.some.inj h
        rfl
      · cases h
  | succ budget ih =>
    rcases hr : e.reach index with ⟨_ | ⟨j, s⟩, e'⟩
    · rw [visits_of_none hr] at h
      cases h
    · rw [visits_succ hr] at h
      cases k with
      | zero =>
        have hv : (⟨j, s, e', true⟩ : Visit) = v := by
          split at h
          · exact Option.some.inj h
          · exact Option.some.inj h
        rw [← hv]
        simp
      | succ k =>
        split at h
        · cases h
        · rw [List.getElem?_cons_succ] at h
          rw [ih h]
          simp

/-- The steps of a run are a passage along its visits. -/
theorem passage_steps (budget index : Nat) (success : Bool) (e : Engine) :
    Passage index success e (visits budget index e) (steps budget index success e).1
      (steps budget index success e).2 := by
  induction budget generalizing index success e with
  | zero =>
    rcases h : e.reach index with ⟨_ | ⟨j, s⟩, e'⟩
    · rw [visits_of_none h, steps_of_none h]
      exact .finish h
    · rw [visits_zero h, steps_zero h]
      exact .stop ⟨j, s, e', false⟩ h rfl
  | succ budget ih =>
    rcases h : e.reach index with ⟨_ | ⟨j, s⟩, e'⟩
    · rw [visits_of_none h, steps_of_none h]
      exact .finish h
    · rw [visits_succ h, steps_succ h]
      split
      · next hl => exact .stop ⟨j, s, e', true⟩ h hl
      · next hl => exact .go ⟨j, s, e', true⟩ h hl (ih ..)

end Engine

/-! ## What a passage comes to -/

/-- The steps came to an end as their visits tell: the run succeeded when no step failed, control
was lost after a step that succeeded, or a visit broke the run off. -/
def Ending.Fits (success : Bool) (vs : List Visit) : Ending → Prop
  | .finished ok => (∀ v ∈ vs, v.broken = false) ∧
      (ok = true ↔ success = true ∧ ∀ v ∈ vs, v.ok = true) ∧
      ((∀ v ∈ vs, v.ok = true) → vs.getLast?.bind Visit.fault = none)
  | .lost f => (∀ v ∈ vs, v.broken = false) ∧ vs.getLast?.bind Visit.fault = some f
  | .broken f => (∃ v ∈ vs, v.broken = true) ∧ vs.getLast?.bind Visit.fault = some f

namespace Visit

/-- A single visit where the run ends. -/
theorem fits_ending (v : Visit) (success : Bool) : (v.ending success).Fits success [v] := by
  unfold ending
  rcases hr : v.result with f | _ | _
  · by_cases hf : f.isControl = true
    · simp [Ending.Fits, broken, fault, ok, hr, hf]
    · simp [Ending.Fits, broken, fault, hr, hf]
  · simp [Ending.Fits, broken, fault, ok, hr]
  · dsimp only
    split
    · next hfault => simpa [Ending.Fits, broken, hr] using hfault
    · next hfault => simp [Ending.Fits, broken, ok, hr, hfault]

/-- Where the run goes on, no fault occurred, and a step that failed allows to go on. -/
theorem of_landing {v : Visit} {next : Nat} (h : v.landing = some next) :
    v.broken = false ∧ v.fault = none ∧ (v.ok = false → v.slot.continueOnError = true) := by
  unfold landing at h
  unfold broken fault ok
  rcases hr : v.result with f | _ | _
  · rw [hr] at h
    cases h
  · rw [hr] at h
    refine ⟨rfl, rfl, fun _ => ?_⟩
    cases hc : v.slot.continueOnError
    · simp [hc] at h
    · rfl
  · rw [hr] at h
    refine ⟨rfl, ?_, fun h => nomatch h⟩
    dsimp only at h ⊢
    split at h
    · next hcourse => rw [hcourse]
    · cases h

end Visit

namespace Passage

variable {index : Nat} {success : Bool} {e e' : Engine} {vs : List Visit} {ending : Ending}

/-- Reaching a step and settling the visit is a move at the step. -/
theorem moved_visit {v : Visit} (h : e.reach index = (some (v.index, v.slot), v.before)) :
    e.Moved [v.index] v.settled := by
  obtain ⟨⟨d, current, hbefore, -⟩, -⟩ := Engine.reach_some h
  have hidle : e.Moved [] v.before := by
    rw [hbefore]
    exact .of_eq rfl rfl rfl rfl
  exact hidle.trans v.moved_settled

/-- What is kept by idling and by the visits of enabled steps holds throughout a run: at every visit,
and in the end. -/
theorem invariant {P : Engine → Prop} (hidle : ∀ {e e' : Engine}, e.Idles e' → P e → P e')
    (hvisit : ∀ v : Visit, v.before.slots[v.index]? = some v.slot → v.slot.enabled = true →
      P v.before → P v.settled)
    (h : Passage index success e vs ending e') (he : P e) :
    P e' ∧ ∀ v ∈ vs, P v.before ∧ v.before.slots[v.index]? = some v.slot ∧
      v.slot.enabled = true := by
  have hreach {index : Nat} {e : Engine} {v : Visit}
      (h : e.reach index = (some (v.index, v.slot), v.before)) (he : P e) :
      P v.before ∧ v.before.slots[v.index]? = some v.slot ∧ v.slot.enabled = true := by
    obtain ⟨-, -, hslot, hon⟩ := Engine.slots_of_reach h
    exact ⟨hidle (Engine.reach_some h).1 he, hslot, hon⟩
  induction h with
  | finish h => exact ⟨hidle (Engine.reach_none h).1 he, by simp⟩
  | stop v h _ =>
    obtain ⟨hbefore, hslot, hon⟩ := hreach h he
    exact ⟨hvisit v hslot hon hbefore, by simp [hbefore, hslot, hon]⟩
  | go v h _ _ ih =>
    obtain ⟨hbefore, hslot, hon⟩ := hreach h he
    obtain ⟨hend, hrest⟩ := ih (hvisit v hslot hon hbefore)
    exact ⟨hend, List.forall_mem_cons.mpr ⟨⟨hbefore, hslot, hon⟩, hrest⟩⟩

/-- A run moves the steps that it visits. -/
theorem moved (h : Passage index success e vs ending e') :
    e.Moved (vs.map Visit.index) e' := by
  induction h with
  | finish h =>
    obtain ⟨⟨d, current, rfl, -⟩, -⟩ := Engine.reach_none h
    exact .of_eq rfl rfl rfl rfl
  | stop v h _ => exact moved_visit h
  | go v h _ _ ih => exact (moved_visit h).trans ih

/-- Every visit is to a step of the script that was enabled from the beginning on. -/
theorem visited (h : Passage index success e vs ending e') :
    ∀ v ∈ vs, v.before.slots[v.index]? = some v.slot ∧ v.slot.enabled = true ∧
      ∃ s, e.slots[v.index]? = some s ∧ s.Later v.slot := by
  have hvisit {index : Nat} {e : Engine} {v : Visit}
      (h : e.reach index = (some (v.index, v.slot), v.before)) :
      v.before.slots[v.index]? = some v.slot ∧ v.slot.enabled = true ∧
        ∃ s, e.slots[v.index]? = some s ∧ s.Later v.slot := by
    obtain ⟨⟨d, current, hbefore, -⟩, -, -, hslot, henabled, -⟩ := Engine.reach_some h
    exact ⟨by rw [hbefore]; exact hslot, henabled, v.slot, hslot, .refl _⟩
  induction h with
  | finish _ => simp
  | stop v h _ => simpa using hvisit h
  | go v h _ _ ih =>
    intro w hw
    rcases List.mem_cons.mp hw with rfl | hw
    · exact hvisit h
    · obtain ⟨hslot, henabled, t, ht, hlater⟩ := ih w hw
      obtain ⟨s, hs, hst, -⟩ := (moved_visit h).slots ht
      exact ⟨hslot, henabled, s, hs, hst.trans hlater⟩

/-- Reaching a step and settling the visit gains the note of the visit. -/
theorem gains_visit {v : Visit} (h : e.reach index = (some (v.index, v.slot), v.before))
    (hb : v.broken = false) : e.desk.Gains v.settled.desk (e.notes [v.notice]) := by
  obtain ⟨⟨d, current, hbefore, hd⟩, -⟩ := Engine.reach_some h
  have hnotes : v.before.notes [v.notice] = e.notes [v.notice] :=
    Engine.notes_congr (by rw [hbefore]) _
  have hdesk : v.before.desk = d := by rw [hbefore]
  exact hnotes ▸ (hdesk ▸ hd).gain (v.gains_settled hb)

/-- Who watches takes a note of every visit, in order. -/
theorem gains (h : Passage index success e vs ending e') (hb : ∀ v ∈ vs, v.broken = false) :
    e.desk.Gains e'.desk (e.notes (vs.map Visit.notice)) := by
  induction h with
  | finish h =>
    obtain ⟨⟨d, current, rfl, hd⟩, -⟩ := Engine.reach_none h
    rw [List.map_nil, Engine.notes_nil]
    exact hd.gains
  | stop v h _ => exact gains_visit h (hb v (by simp))
  | @go index success e next vs ending e' v h _ _ ih =>
    have hv := gains_visit h (hb v (by simp))
    have hrest := ih fun w hw => hb w (List.mem_cons_of_mem v hw)
    rw [Engine.notes_congr (moved_visit h).observer] at hrest
    rw [List.map_cons, ← List.singleton_append, Engine.notes_append]
    exact hv.trans hrest

/-- The first failure of the run is kept. -/
theorem firstError_eq (h : Passage index success e vs ending e')
    (hb : ∀ v ∈ vs, v.broken = false) :
    e'.firstError = e.firstError.or ((vs.find? fun v => !v.ok).map Visit.summary) := by
  have hvisit {index : Nat} {e : Engine} {v : Visit}
      (h : e.reach index = (some (v.index, v.slot), v.before)) (hb : v.broken = false) :
      v.settled.firstError = e.firstError.or (if v.ok then none else some v.summary) := by
    obtain ⟨⟨d, current, hbefore, -⟩, -⟩ := Engine.reach_some h
    rw [v.firstError_settled hb, hbefore]
  induction h with
  | finish h =>
    obtain ⟨⟨d, current, rfl, -⟩, -⟩ := Engine.reach_none h
    simp
  | stop v h _ =>
    rw [hvisit h (hb v (by simp))]
    cases hv : v.ok <;> simp [hv]
  | go v h _ _ ih =>
    rw [ih fun w hw => hb w (List.mem_cons_of_mem v hw), hvisit h (hb v (by simp)), Option.or_assoc]
    cases hv : v.ok <;> simp [hv]

/-- The steps of a run come to an end as their visits tell. -/
theorem fits (h : Passage index success e vs ending e') : ending.Fits success vs := by
  induction h with
  | finish _ => simp [Ending.Fits]
  | stop v _ _ => exact v.fits_ending _
  | @go index success e next vs ending e' v _ hl _ ih =>
    -- No control is lost at a visit after which the run goes on.
    obtain ⟨hbroken, hfault, -⟩ := Visit.of_landing hl
    have hlast : (v :: vs).getLast?.bind Visit.fault = vs.getLast?.bind Visit.fault := by
      cases vs with
      | nil => exact hfault
      | cons w ws => rw [List.getLast?_cons_cons]
    unfold Ending.Fits at ih ⊢
    rw [hlast]
    cases ending with
    | finished ok =>
      obtain ⟨hvs, hok, hfault⟩ := ih
      refine ⟨by simpa [hbroken] using hvs, ?_, ?_⟩
      · rw [hok, Bool.and_eq_true, List.forall_mem_cons, and_assoc]
      · exact fun h => hfault fun w hw => h w (List.mem_cons_of_mem v hw)
    | lost f => simpa [hbroken] using ih
    | broken f => simpa [hbroken] using ih

end Passage

end Deskwork
