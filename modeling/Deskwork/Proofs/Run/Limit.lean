/-
# The Limit of Steps

A run attempts as many steps as it is allowed at most, none when the number is zero or negative, and
tells who watches of one step more at most: the one that would have been too many. When the run
comes to such a step, it fails at it, without attempting it and whether or not the step may fail
(`run_limited`).
-/
import Deskwork.Proofs.Run.Account
import Deskwork.Proofs.Run.References
import Deskwork.Proofs.Run.Steering
import Deskwork.Proofs.Run.Turns

namespace Deskwork

open Relation

/-! ## Visits that are no attempts -/

namespace Visit

variable {v : Visit}

/-- A visit that is no attempt loses control because of the limit. -/
theorem result_of_not_attempted (h : v.attempted = false) :
    v.result = .error (.control (.stepLimit v.before.maxSteps)) := by
  unfold result outcome
  rw [h]
  rfl

/-- It changes nothing but the last error of its step. -/
theorem slots_settled_of_not_attempted (h : v.attempted = false) :
    v.settled.slots = v.before.slots.modify v.index
      (Engine.withError (some (Misrouting.stepLimit v.before.maxSteps).message)) := by
  have hresult := result_of_not_attempted h
  have hbroken : v.broken = false := by
    unfold broken
    rw [hresult]
    rfl
  obtain ⟨d, hd, -⟩ := v.settled_eq hbroken
  rw [hd]
  unfold noted
  rw [hresult, after_of_not_attempted h]
  rfl

/-- The fault of an attempt is the fault of the visit. -/
theorem fault_of_result {f : Fault} (h : v.result = .error f) : v.fault = some f := by
  unfold fault
  rw [h]

/-- Of the faults of a visit, the limit is that of an attempt, if any. -/
theorem result_of_stepLimit {limit : Int} (h : v.fault = some (.control (.stepLimit limit))) :
    v.result = .error (.control (.stepLimit limit)) := by
  unfold fault at h
  rcases hresult : v.result with f | _ | _
  · rw [hresult] at h
    exact congrArg Except.error (Option.some.inj h)
  · rw [hresult] at h
    cases h
  · rw [hresult] at h
    dsimp only at h
    split at h
    · cases h
    · cases h

/-- The attempt of an action never loses control because of the limit. -/
theorem result_ne_stepLimit {a : Action} (haction : v.slot.work = .action a)
    (ha : v.attempted = true) (limit : Int) : v.result ≠ .error (.control (.stepLimit limit)) := by
  intro hresult
  rcases comes haction ha with ⟨hfault, houtside, -⟩ | ⟨a', p, -, -, -, hmarks, -⟩
  · obtain rfl := Except.error.inj (hfault.symm.trans hresult)
    cases houtside
  · rw [hresult] at hmarks
    cases hmarks with
    | lost why control iteration =>
      obtain houtside | ⟨l, -, hkind | ⟨-, hbackward⟩⟩ := why
      · cases houtside
      · rcases StepM.expectKind_eq_error hkind with hf | ⟨_, hf⟩ | ⟨_, _, hf⟩
        · cases hf
        · cases hf
        · cases hf
      · cases hbackward

end Visit

/-! ## Counting visits -/

namespace Engine

/-- At most as many visits are attempts as are allowed, and at most one more is made. -/
theorem countP_visits (budget index : Nat) (e : Engine) :
    (visits budget index e).countP Visit.attempted ≤ budget ∧
      (visits budget index e).length ≤ budget + 1 := by
  induction budget generalizing index e with
  | zero =>
    rcases h : e.reach index with ⟨_ | ⟨j, s⟩, e'⟩
    · rw [visits_of_none h]
      exact ⟨Nat.le_refl 0, Nat.zero_le 1⟩
    · rw [visits_zero h]
      exact ⟨Nat.le_refl 0, Nat.le_refl 1⟩
  | succ budget ih =>
    rcases h : e.reach index with ⟨_ | ⟨j, s⟩, e'⟩
    · rw [visits_of_none h]
      exact ⟨Nat.zero_le _, Nat.zero_le _⟩
    · rw [visits_succ h]
      split
      · constructor
        · rw [List.countP_singleton, if_pos rfl]
          omega
        · rw [List.length_singleton]
          omega
      · next k _ =>
        obtain ⟨hcount, hlength⟩ := ih k (⟨j, s, e', true⟩ : Visit).settled
        constructor
        · rw [List.countP_cons_of_pos rfl]
          omega
        · rw [List.length_cons]
          omega

/-- The same of the visits of a run that has begun. -/
theorem countP_trail (e : Engine) :
    e.trail.countP Visit.attempted ≤ e.maxSteps.toNat ∧
      e.trail.length ≤ e.maxSteps.toNat + 1 := by
  cases hprepare : e.prepare.1 with
  | some why =>
    rw [(trail_of_problem hprepare).1]
    exact ⟨Nat.zero_le _, Nat.zero_le _⟩
  | none =>
    obtain ⟨-, -, -, hmax⟩ := e.prepare_snd
    unfold trail
    rw [show e.prepare = (none, e.prepare.2) from Prod.ext hprepare rfl]
    dsimp only
    rw [hmax]
    exact countP_visits ..

end Engine

namespace Passage

variable {index : Nat} {success : Bool} {e e' : Engine} {vs : List Visit} {ending : Ending}

/-- A fault at a visit is the end of the run. -/
theorem getLast?_of_fault (h : Passage index success e vs ending e') {v : Visit} (hv : v ∈ vs)
    (hfault : v.fault ≠ none) : vs.getLast? = some v := by
  obtain ⟨front, back, hvs⟩ := List.append_of_mem hv
  obtain rfl := h.last_of_stops hvs (.inl hfault)
  rw [hvs]
  simp

/-- A visit that is no attempt ends the steps of the run, without success. -/
theorem ending_of_not_attempted (h : Passage index success e vs ending e') {v : Visit}
    (hv : v ∈ vs) (ha : v.attempted = false) : ending = .finished false ∧ e' = v.settled := by
  have hresult := Visit.result_of_not_attempted ha
  induction h with
  | finish _ => cases hv
  | stop w _ _ =>
    obtain rfl := List.mem_singleton.mp hv
    refine ⟨?_, rfl⟩
    unfold Visit.ending
    rw [hresult]
    rfl
  | go w _ lands _ ih =>
    rcases List.mem_cons.mp hv with rfl | hv
    · unfold Visit.landing at lands
      rw [hresult] at lands
      cases lands
    · exact ih hv

end Passage

/-! ## Runs -/

/-- The event is a note that a step was executed. -/
def Event.isExecuted : Event → Bool
  | .executed .. => true
  | _ => false

namespace Engine

/-- The first turn of the loop of a run that has begun. -/
def firstTurn (e : Engine) : Turn := ⟨0, 0, true, e.prepare.2⟩

/-- The loop of a run that has begun takes a turn. There is no loop when the engine cannot be made
ready. -/
def Takes (e : Engine) (t : Turn) : Prop :=
  e.prepare.1 = none ∧ ReflTransGen Turn.Next e.firstTurn t

/-- What the limit of steps does to a run of some steps. -/
structure Limited (e : Engine) (slots : Option (List Slot)) : Prop where
  /-- The loop of the run ends. -/
  ends : (e.begun slots).prepare.1 = none → (e.begun slots).firstTurn.Ends (e.begun slots).ended
  /-- In none of its turns have more steps been attempted than are allowed. -/
  attempts : ∀ t, (e.begun slots).Takes t → t.attempts ≤ e.maxSteps.toNat
  /-- So no more steps are attempted. -/
  attempted : (e.begun slots).trail.countP Visit.attempted ≤ e.maxSteps.toNat
  /-- At most one step more is notified. -/
  notified : ∃ events, (e.run slots).2.desk.notices = e.desk.notices ++ events ∧
    events.countP Event.isExecuted ≤ e.maxSteps.toNat + 1
  /-- The visits that are no attempts are those of the turns that come to an enabled step when as
  many steps as are allowed have been attempted. -/
  beyond : ∀ v, (v ∈ (e.begun slots).trail ∧ v.attempted = false) ↔
    ∃ t s, (e.begun slots).Takes t ∧ t.OverAt s ∧ t.attempts = e.maxSteps.toNat ∧
      v = t.visit s false
  /-- Control is lost because of the limit exactly when there is such a turn, unless a step claims so
  itself. -/
  fails : (e.begun slots).lostControl = some (.control (.stepLimit e.maxSteps)) ↔
    (∃ t s, (e.begun slots).Takes t ∧ t.OverAt s) ∨
      ∃ v ∈ (e.begun slots).trail, v.attempted = true ∧
        v.result = .error (.control (.stepLimit e.maxSteps))
  /-- No action claims so. -/
  claims : (∀ s ∈ slots.getD e.slots, ∃ a, s.work = .action a) →
    ∀ v ∈ (e.begun slots).trail, v.attempted = true →
      v.result ≠ .error (.control (.stepLimit e.maxSteps))
  /-- The step that is one too many is the last one of the run. It is not attempted: only its last
  error is changed. The run fails, whether or not the step may fail. -/
  overrun : ∀ v ∈ (e.begun slots).trail, v.attempted = false →
    (e.begun slots).trail[e.maxSteps.toNat]? = some v ∧
      (e.begun slots).trail.getLast? = some v ∧
      v.after = v.before ∧
      (e.begun slots).ended = (.finished false, v.settled) ∧
      v.settled.slots = v.before.slots.modify v.index
        (withError (some (Misrouting.stepLimit e.maxSteps).message)) ∧
      (e.run slots).1 = e.desk.log.ready.map fun _ => false

/-- The visits of a run that has begun are those from its first turn on. -/
theorem visits_firstTurn {e : Engine} (h : e.prepare.1 = none) :
    e.firstTurn.visits = e.trail ∧ e.firstTurn.rest = e.ended := by
  unfold Turn.visits Turn.rest Turn.budget firstTurn trail ended
  rw [show e.prepare = (none, e.prepare.2) from Prod.ext h rfl]
  exact ⟨rfl, rfl⟩

/-- A turn of a run has no more attempts behind it than are allowed. -/
theorem attempts_of_takes {e : Engine} {t : Turn} (h : e.Takes t) :
    t.engine.maxSteps = e.maxSteps ∧ t.attempts ≤ e.maxSteps.toNat := by
  obtain ⟨-, -, -, hmax⟩ := e.prepare_snd
  obtain ⟨hsame, hle⟩ := Turn.attempts_le h.2 (Nat.zero_le _)
  have hfirst : e.firstTurn.engine.maxSteps = e.maxSteps := hmax
  rw [hfirst] at hsame hle
  exact ⟨hsame, hle⟩

/-- The visits of a run that are no attempts are those of the turns that come to a step too many. -/
theorem unattempted_trail_iff {e : Engine} {v : Visit} :
    (v ∈ e.trail ∧ v.attempted = false) ↔
      ∃ t s, e.Takes t ∧ t.OverAt s ∧ t.attempts = e.maxSteps.toNat ∧ v = t.visit s false := by
  cases hprepare : e.prepare.1 with
  | some why =>
    rw [(trail_of_problem hprepare).1]
    constructor
    · rintro ⟨hv, -⟩
      cases hv
    · rintro ⟨t, s, ⟨hnone, -⟩, -⟩
      cases hnone.symm.trans hprepare
  | none =>
    rw [← (visits_firstTurn hprepare).1, Turn.unattempted_iff]
    constructor
    · rintro ⟨t, s, ht, hover, hv⟩
      obtain ⟨hmax, hle⟩ := attempts_of_takes ⟨hprepare, ht⟩
      have hfull := hover.full
      rw [hmax] at hfull
      exact ⟨t, s, ⟨hprepare, ht⟩, hover, by omega, hv⟩
    · rintro ⟨t, s, ht, hover, -, hv⟩
      exact ⟨t, s, ht.2, hover, hv⟩

/-- A visit that is no attempt was made with the number of allowed steps of the run. -/
theorem maxSteps_of_mem_trail {e : Engine} {v : Visit} (hv : v ∈ e.trail)
    (ha : v.attempted = false) : v.before.maxSteps = e.maxSteps := by
  obtain ⟨t, s, ht, -, -, rfl⟩ := unattempted_trail_iff.mp ⟨hv, ha⟩
  exact (attempts_of_takes ht).1

/-- The fault of a visit is how control was lost. -/
theorem lostControl_of_fault {e : Engine} {v : Visit} {f : Fault} (hv : v ∈ e.trail)
    (hf : v.fault = some f) : e.lostControl = some f := by
  unfold lostControl
  cases hprepare : e.prepare.1 with
  | some why =>
    rw [(trail_of_problem hprepare).1] at hv
    cases hv
  | none =>
    have hfault : v.fault ≠ none := by
      rw [hf]
      nofun
    have hlast := (passage_trail hprepare).getLast?_of_fault hv hfault
    dsimp only
    rw [hlast]
    exact hf

/-- Where control is lost because of the limit, it is lost so at a visit. -/
theorem exists_of_stepLimit {e : Engine} {limit : Int}
    (h : e.lostControl = some (.control (.stepLimit limit))) :
    ∃ v ∈ e.trail, v.result = .error (.control (.stepLimit limit)) := by
  unfold lostControl at h
  obtain ⟨-, hprepare⟩ | ⟨index, s, target, -, hprepare⟩ := e.prepare_fst
  · rw [hprepare] at h
    obtain ⟨v, hv, hfault⟩ := Option.bind_eq_some_iff.mp h
    exact ⟨v, List.mem_of_getLast? hv, Visit.result_of_stepLimit hfault⟩
  · rw [hprepare] at h
    cases h

/-- Control is lost because of the limit at a step too many, or where a step claims so. -/
theorem lostControl_eq_stepLimit_iff (e : Engine) :
    e.lostControl = some (.control (.stepLimit e.maxSteps)) ↔
      (∃ t s, e.Takes t ∧ t.OverAt s) ∨
        ∃ v ∈ e.trail, v.attempted = true ∧
          v.result = .error (.control (.stepLimit e.maxSteps)) := by
  constructor
  · intro h
    obtain ⟨v, hv, hresult⟩ := exists_of_stepLimit h
    cases ha : v.attempted with
    | true => exact .inr ⟨v, hv, ha, hresult⟩
    | false =>
      obtain ⟨t, s, ht, hover, -, -⟩ := unattempted_trail_iff.mp ⟨hv, ha⟩
      exact .inl ⟨t, s, ht, hover⟩
  · rintro (⟨t, s, ht, hover⟩ | ⟨v, hv, -, hresult⟩)
    · obtain ⟨hmax, hle⟩ := attempts_of_takes ht
      have hfull := hover.full
      rw [hmax] at hfull
      obtain ⟨hv, ha⟩ := unattempted_trail_iff.mpr ⟨t, s, ht, hover, by omega, rfl⟩
      have hresult := Visit.result_of_not_attempted ha
      rw [maxSteps_of_mem_trail hv ha] at hresult
      exact lostControl_of_fault hv (Visit.fault_of_result hresult)
    · exact lostControl_of_fault hv (Visit.fault_of_result hresult)

/-- The visit that is no attempt is the one after as many attempts as are allowed, and the last. -/
theorem getElem?_of_not_attempted {e : Engine} {v : Visit} (hv : v ∈ e.trail)
    (ha : v.attempted = false) :
    e.trail[e.maxSteps.toNat]? = some v ∧ e.trail.getLast? = some v := by
  obtain ⟨k, hk⟩ := List.mem_iff_getElem?.mp hv
  -- Only one visit fits in after as many attempts as are allowed.
  have hlength := e.countP_trail.2
  have hlt : k < e.trail.length := (List.getElem?_eq_some_iff.mp hk).1
  have hnot : ¬ (k : Int) < e.maxSteps := by
    rw [← attempted_trail hk, ha]
    nofun
  have hmax : k = e.maxSteps.toNat := by omega
  have hlast : e.trail.length - 1 = k := by omega
  constructor
  · exact hmax ▸ hk
  · rw [List.getLast?_eq_getElem?, hlast]
    exact hk

/-- A run that comes to a step too many ends with it. -/
theorem ended_of_not_attempted {e : Engine} {v : Visit} (hv : v ∈ e.trail)
    (ha : v.attempted = false) : e.ended = (.finished false, v.settled) := by
  cases hprepare : e.prepare.1 with
  | some why =>
    rw [(trail_of_problem hprepare).1] at hv
    cases hv
  | none =>
    obtain ⟨hending, hengine⟩ := (passage_trail hprepare).ending_of_not_attempted hv ha
    exact Prod.ext hending hengine

/-! ## Notes of executed steps -/

/-- There are no more notes of executed steps than events that note executed steps. -/
theorem countP_notes (e : Engine) (events : List Event) :
    (e.notes events).countP Event.isExecuted ≤ events.countP Event.isExecuted := by
  unfold notes
  split
  · exact Nat.le_refl _
  · exact Nat.zero_le _

/-- A run notes no more executed steps than it visits. -/
theorem exists_notices {e : Engine} (h : e.running = false) (slots : Option (List Slot)) :
    ∃ events, (e.run slots).2.desk.notices = e.desk.notices ++ events ∧
      events.countP Event.isExecuted ≤ (e.begun slots).trail.length := by
  have hvisits (vs : List Visit) : (vs.map Visit.notice).countP Event.isExecuted ≤ vs.length := by
    have := List.countP_le_length (p := Event.isExecuted) (l := vs.map Visit.notice)
    rwa [List.length_map] at this
  -- A run that raises notes some of its visits, and one that returns notes them all and its end.
  rcases hrun : (e.run slots).1 with f | ok
  · obtain ⟨vs, hprefix, hnotices⟩ := notices_of_raised h hrun
    refine ⟨_, hnotices, ?_⟩
    have hcount := e.countP_notes (vs.map Visit.notice)
    have hlength := hprefix.length_le
    have := hvisits vs
    omega
  · have hreturned := run_returned h (Prod.ext hrun rfl)
    have hnotices := ((e.steady_begun slots).gain hreturned.gains).notices
    refine ⟨_, hnotices, ?_⟩
    have hcount := (e.begun slots).countP_notes
      ((e.begun slots).trail.map Visit.notice ++ [(e.begun slots).ended.2.completion ok])
    have hend : [(e.begun slots).ended.2.completion ok].countP Event.isExecuted = 0 := rfl
    rw [List.countP_append, hend] at hcount
    have := hvisits (e.begun slots).trail
    omega

end Engine

/-- The steps of a run of an idle engine come to an end, whatever they request; no more of them are
attempted than are allowed, and the run fails because of the limit exactly when it comes to one more.
-/
theorem run_limited {e : Engine} (h : e.running = false) (slots : Option (List Slot)) :
    e.Limited slots := by
  have hmax : (e.begun slots).maxSteps = e.maxSteps := rfl
  obtain ⟨hattempted, hlength⟩ := (e.begun slots).countP_trail
  rw [hmax] at hattempted hlength
  refine ⟨?_, ?_, hattempted, ?_, ?_, ?_, ?_, ?_⟩
  · intro hprepare
    rw [← (Engine.visits_firstTurn hprepare).2]
    exact Turn.ends_rest _
  · intro t ht
    exact (Engine.attempts_of_takes ht).2
  · obtain ⟨events, hnotices, hcount⟩ := Engine.exists_notices h slots
    exact ⟨events, hnotices, hcount.trans hlength⟩
  · intro v
    exact Engine.unattempted_trail_iff
  · exact (e.begun slots).lostControl_eq_stepLimit_iff
  · intro hacts v hv ha
    obtain ⟨⟨a, haction⟩, -⟩ := Engine.map_asNew_trail (e := e.begun slots) hacts v hv
    exact Visit.result_ne_stepLimit haction ha e.maxSteps
  · intro v hv ha
    have hbefore := Engine.maxSteps_of_mem_trail hv ha
    have hended := Engine.ended_of_not_attempted hv ha
    have hslots := Visit.slots_settled_of_not_attempted ha
    obtain ⟨hget, hlast⟩ := Engine.getElem?_of_not_attempted hv ha
    rw [hbefore] at hslots
    refine ⟨hget, hlast, Visit.after_of_not_attempted ha, hended, hslots, ?_⟩
    cases hready : e.desk.log.ready with
    | error f =>
      rw [Engine.run_of_not_ready h hready]
      rfl
    | ok u =>
      rw [Engine.run_eq h hready, hended]
      rfl

/-- A step that jumps to itself for ever, and whose failure would not stop the script. -/
def runaway : List Step := [⟨true, true, .branch ⟨"a", "a", .equal, .jump, 1⟩⟩]

/-- An idle engine that carries out a number of steps at most. -/
def limitedEngine (maxSteps : Int) : Engine :=
  .new .blank (runaway.map .ofStep) false maxSteps .record

/-- A run that is stopped after three attempts, and one that is stopped at once. -/
theorem run_limited_runaway :
    (limitedEngine 3).Limited none ∧
      ((limitedEngine 3).begun none).trail.map Visit.attempted = [true, true, true, false] ∧
      ((limitedEngine 3).run none).1 = .ok false ∧
      (limitedEngine (-1)).Limited none ∧
      ((limitedEngine (-1)).begun none).trail.map Visit.attempted = [false] := by
  have hthree : (limitedEngine 3).Limited none := run_limited rfl none
  have hnegative : (limitedEngine (-1)).Limited none := run_limited rfl none
  exact ⟨hthree, by decide +kernel, by decide +kernel, hnegative, by decide +kernel⟩

end Deskwork
