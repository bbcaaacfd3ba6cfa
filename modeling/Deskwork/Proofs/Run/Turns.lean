/-
# The Loop of a Run

The steps of a run are carried out in a loop. Each turn looks at the step at one index: it passes
over the step when it is disabled, attempts it when another attempt is allowed, and otherwise ends
the run. Steps may send the loop back as often as they like, so nothing bounds the indexes of its
turns; but each turn uses up an attempt, or gets ahead without using one (`shrinks`). So the loop
ends, and it ends as `Engine.steps` tells (`ends_rest`).
-/
import Deskwork.Proofs.Run.Authored

namespace Deskwork

/-! ## Turns -/

/-- A turn of the loop that carries out the steps of a run. -/
structure Turn where
  /-- How many steps were attempted before. -/
  attempts : Nat
  index : Nat
  /-- No step has failed. -/
  success : Bool
  engine : Engine

namespace Turn

/-- What a turn leads to: to another turn, or to the end of the steps. -/
def next (t : Turn) : Turn ⊕ (Ending × Engine) :=
  match t.engine.slots[t.index]? with
  | none => .inr (.finished t.success, t.engine)
  | some s =>
    let e := { t.engine with current := t.index }
    if s.enabled then
      if (t.attempts : Int) < e.maxSteps then
        let (r, e) := e.executeOne t.index s
        match e.settle t.index s t.success r with
        | (.goto index success, e) => .inl ⟨t.attempts + 1, index, success, e⟩
        | (.stop ending, e) => .inr (ending, e)
      else
        .inr (.finished false, e.loseControl t.index s (.control (.stepLimit e.maxSteps)))
    else
      .inl { t with
        index := t.index + 1
        engine := t.engine.passed t.engine.slots.length t.index s }

/-- One turn leads to another. -/
def Next (t u : Turn) : Prop := t.next = .inl u

/-- A turn leads to one other turn at most. -/
theorem Next.unique {t u u' : Turn} (h : t.Next u) (h' : t.Next u') : u' = u :=
  Sum.inl.inj (h'.symm.trans h)

/-- The loop ends some turns after a turn. -/
inductive Ends : Turn → Ending × Engine → Prop where
  /-- It ends with this turn. -/
  | stop {t r} (h : t.next = .inr r) : Ends t r
  /-- It ends after the next turn. -/
  | go {t u r} (h : t.Next u) (rest : Ends u r) : Ends t r

/-- The step that a turn looks at, visited. -/
def visit (t : Turn) (s : Slot) (attempted : Bool) : Visit :=
  ⟨t.index, s, { t.engine with current := t.index }, attempted⟩

/-- All that a turn can do. -/
inductive Way (t : Turn) : Prop where
  /-- There is no step at the index. -/
  | out (none : t.engine.slots[t.index]? = none)
      (next : t.next = .inr (.finished t.success, t.engine))
  /-- The step is disabled, and it is passed over. -/
  | passed (s : Slot) (stands : t.engine.slots[t.index]? = some s) (off : ¬ s.enabled = true)
      (next : t.Next { t with
        index := t.index + 1, engine := t.engine.passed t.engine.slots.length t.index s })
  /-- The step would be one too many. -/
  | beyond (s : Slot) (stands : t.engine.slots[t.index]? = some s) (on : s.enabled = true)
      (full : t.engine.maxSteps ≤ t.attempts)
      (next : t.next = .inr ((t.visit s false).ending t.success, (t.visit s false).settled))
  /-- The step is attempted, and the loop ends. -/
  | stopped (s : Slot) (stands : t.engine.slots[t.index]? = some s) (on : s.enabled = true)
      (room : (t.attempts : Int) < t.engine.maxSteps) (stops : (t.visit s true).landing = none)
      (next : t.next = .inr ((t.visit s true).ending t.success, (t.visit s true).settled))
  /-- The step is attempted, and the loop goes on. -/
  | went (s : Slot) (stands : t.engine.slots[t.index]? = some s) (on : s.enabled = true)
      (room : (t.attempts : Int) < t.engine.maxSteps) (k : Nat)
      (lands : (t.visit s true).landing = some k)
      (next : t.Next ⟨t.attempts + 1, k, t.success && (t.visit s true).ok,
        (t.visit s true).settled⟩)

/-- Every turn does one of these. -/
theorem way (t : Turn) : t.Way := by
  -- Is there a step, is it enabled, and is another attempt allowed?
  cases hs : t.engine.slots[t.index]? with
  | none =>
    refine .out hs ?_
    unfold Turn.next
    rw [hs]
  | some s =>
    by_cases hon : s.enabled = true
    · by_cases hroom : (t.attempts : Int) < t.engine.maxSteps
      · have hexecute : ({ t.engine with current := t.index } : Engine).executeOne t.index s =
            ((t.visit s true).result, (t.visit s true).after) :=
          Visit.executeOne_eq (v := t.visit s true) hs rfl
        have hsettle : (t.visit s true).after.settle t.index s t.success (t.visit s true).result =
            _ := (t.visit s true).settle_eq t.success
        have hnext : t.next =
            match (t.visit s true).after.settle t.index s t.success (t.visit s true).result with
            | (.goto index success, e) => .inl ⟨t.attempts + 1, index, success, e⟩
            | (.stop ending, e) => .inr (ending, e) := by
          unfold Turn.next
          rw [hs]
          dsimp only
          rw [if_pos hon, if_pos hroom, hexecute]
        rw [hsettle] at hnext
        cases hl : (t.visit s true).landing with
        | none =>
          rw [hl] at hnext
          exact .stopped s hs hon hroom hl hnext
        | some k =>
          rw [hl] at hnext
          exact .went s hs hon hroom k hl hnext
      · refine .beyond s hs hon (by omega) ?_
        unfold Turn.next
        rw [hs]
        dsimp only
        rw [if_pos hon, if_neg hroom]
        rfl
    · refine .passed s hs hon ?_
      unfold Next Turn.next
      rw [hs]
      dsimp only
      rw [if_neg hon]

/-! ## Termination -/

/-- The attempts that are left, and the indexes that lie ahead. -/
def left (t : Turn) : Nat × Nat :=
  (t.engine.maxSteps.toNat - t.attempts, t.engine.slots.length - t.index)

/-- Attempts count more than indexes. -/
def Less : Nat × Nat → Nat × Nat → Prop := Prod.Lex (· < ·) (· < ·)

theorem wellFounded_less : WellFounded Less :=
  (Prod.lex (inferInstance : WellFoundedRelation Nat) inferInstance).wf

variable {t u : Turn}

/-- A turn leads to another when its step is disabled, and when an attempt of it lands somewhere. -/
theorem Next.cases (h : t.Next u) :
    (∃ s, t.engine.slots[t.index]? = some s ∧ ¬ s.enabled = true ∧
      u = { t with
        index := t.index + 1, engine := t.engine.passed t.engine.slots.length t.index s }) ∨
    ∃ s k, t.engine.slots[t.index]? = some s ∧ s.enabled = true ∧
      (t.attempts : Int) < t.engine.maxSteps ∧ (t.visit s true).landing = some k ∧
      u = ⟨t.attempts + 1, k, t.success && (t.visit s true).ok, (t.visit s true).settled⟩ := by
  cases t.way with
  | out _ next => cases next.symm.trans h
  | beyond _ _ _ _ next => cases next.symm.trans h
  | stopped _ _ _ _ _ next => cases next.symm.trans h
  | passed s stands off next => exact .inl ⟨s, stands, off, next.unique h⟩
  | went s stands on room k lands next =>
    exact .inr ⟨s, k, stands, on, room, lands, next.unique h⟩

/-- The number of steps that are allowed stays the same. -/
theorem maxSteps_next (h : t.Next u) : u.engine.maxSteps = t.engine.maxSteps := by
  obtain ⟨s, -, -, rfl⟩ | ⟨s, k, -, -, -, -, rfl⟩ := h.cases
  · rfl
  · exact (t.visit s true).moved_settled.maxSteps

/-- From turn to turn, an attempt is used up, or the loop gets ahead. -/
theorem shrinks (h : t.Next u) : Less u.left t.left := by
  have hmax := maxSteps_next h
  obtain ⟨s, stands, -, rfl⟩ | ⟨s, k, -, -, room, -, rfl⟩ := h.cases
  · have hindex : t.index < t.engine.slots.length := (List.getElem?_eq_some_iff.mp stands).1
    refine Prod.Lex.right _ ?_
    show t.engine.slots.length - (t.index + 1) < t.engine.slots.length - t.index
    omega
  · refine Prod.Lex.left _ _ ?_
    dsimp only at hmax ⊢
    rw [hmax]
    omega

end Turn

/-! ## The steps of a run -/

namespace Engine

variable {e e' : Engine} {index index' budget : Nat}

/-- Passing over a disabled step does not change what is reached. -/
theorem reach_of_disabled {s : Slot} (h : e.slots[index]? = some s) (hs : ¬ s.enabled = true) :
    e.reach index = (e.passed e.slots.length index s).reach (index + 1) := by
  obtain ⟨hi, hget⟩ := List.getElem?_eq_some_iff.mp h
  unfold reach
  rw [List.drop_eq_getElem_cons hi, hget]
  exact passDisabled_of_disabled e _ index _ hs

/-- What is reached decides about all that follows. -/
theorem steps_congr {success : Bool} (h : e.reach index = e'.reach index') :
    steps budget index success e = steps budget index' success e' := by
  rcases hr : e.reach index with ⟨_ | ⟨j, s⟩, e''⟩
  · rw [steps_of_none hr, steps_of_none (h ▸ hr)]
  · cases budget with
    | zero => rw [steps_zero hr, steps_zero (h ▸ hr)]
    | succ budget => rw [steps_succ hr, steps_succ (h ▸ hr)]

theorem visits_congr (h : e.reach index = e'.reach index') :
    visits budget index e = visits budget index' e' := by
  rcases hr : e.reach index with ⟨_ | ⟨j, s⟩, e''⟩
  · rw [visits_of_none hr, visits_of_none (h ▸ hr)]
  · cases budget with
    | zero => rw [visits_zero hr, visits_zero (h ▸ hr)]
    | succ budget => rw [visits_succ hr, visits_succ (h ▸ hr)]

end Engine

namespace Turn

/-- The attempts that are left. -/
def budget (t : Turn) : Nat := t.engine.maxSteps.toNat - t.attempts

/-- How the steps come to an end from a turn on. -/
def rest (t : Turn) : Ending × Engine := Engine.steps t.budget t.index t.success t.engine

/-- The visits from a turn on. -/
def visits (t : Turn) : List Visit := Engine.visits t.budget t.index t.engine

/-- The step at the index of the turn is enabled, and it would be one too many. -/
structure OverAt (t : Turn) (s : Slot) : Prop where
  /-- It stands there. -/
  stands : t.engine.slots[t.index]? = some s
  /-- It is enabled. -/
  on : s.enabled = true
  /-- As many steps as are allowed were attempted. -/
  full : t.engine.maxSteps ≤ t.attempts

variable {t u : Turn} {r : Ending × Engine}

theorem budget_of_room (h : (t.attempts : Int) < t.engine.maxSteps) :
    t.budget = t.engine.maxSteps.toNat - (t.attempts + 1) + 1 := by
  unfold budget
  omega

theorem budget_of_full (h : t.engine.maxSteps ≤ t.attempts) : t.budget = 0 := by
  unfold budget
  omega

/-- Where the loop ends with a turn, the steps come to this end, and the turn makes a visit that is
no attempt exactly when its step would be one too many. -/
theorem of_end (h : t.next = .inr r) :
    t.rest = r ∧
      ∀ v, (v ∈ t.visits ∧ v.attempted = false) ↔ ∃ s, t.OverAt s ∧ v = t.visit s false := by
  have hr {r' : Ending × Engine} (h' : t.next = .inr r') : r' = r :=
    Sum.inr.inj (h'.symm.trans h)
  unfold rest visits
  cases t.way with
  | passed _ _ _ next => cases next.symm.trans h
  | went _ _ _ _ _ _ next => cases next.symm.trans h
  | out hnone next =>
    obtain rfl := hr next
    have hlength : t.engine.slots.length ≤ t.index := List.getElem?_eq_none_iff.mp hnone
    -- Behind the last step nothing is reached, and nothing is visited.
    have hreach := Engine.reach_of_length_le hlength
    rw [Engine.steps_of_none hreach, Engine.visits_of_none hreach]
    refine ⟨rfl, fun v => ⟨?_, ?_⟩⟩
    · rintro ⟨hv, -⟩
      cases hv
    · rintro ⟨s, hover, -⟩
      cases hnone.symm.trans hover.stands
  | beyond s stands on full next =>
    obtain rfl := hr next
    have hreach := Engine.reach_of_enabled stands on
    rw [budget_of_full full, Engine.steps_zero hreach, Engine.visits_zero hreach]
    refine ⟨rfl, fun v => ⟨?_, ?_⟩⟩
    · rintro ⟨hv, -⟩
      exact ⟨s, ⟨stands, on, full⟩, List.mem_singleton.mp hv⟩
    · rintro ⟨s', hover, rfl⟩
      obtain rfl := Option.some.inj (stands.symm.trans hover.stands)
      exact ⟨List.mem_singleton_self _, rfl⟩
  | stopped s stands on room stops next =>
    obtain rfl := hr next
    have hreach := Engine.reach_of_enabled stands on
    have hstops : (⟨t.index, s, { t.engine with current := t.index }, true⟩ : Visit).landing =
        none := stops
    rw [budget_of_room room, Engine.steps_succ hreach, Engine.visits_succ hreach, hstops]
    refine ⟨rfl, fun v => ⟨?_, ?_⟩⟩
    · rintro ⟨hv, ha⟩
      obtain rfl := List.mem_singleton.mp hv
      cases ha
    · rintro ⟨s', hover, -⟩
      have := hover.full
      omega

/-- Where a turn leads to another, the steps come to the same end from both, and the visits that are
no attempts are the same. The step of the turn is not one too many. -/
theorem of_next (h : t.Next u) :
    t.rest = u.rest ∧ (∀ s, ¬ t.OverAt s) ∧
      ∀ v, (v ∈ t.visits ∧ v.attempted = false) ↔ (v ∈ u.visits ∧ v.attempted = false) := by
  have hmax := maxSteps_next h
  unfold rest visits
  obtain ⟨s, stands, off, rfl⟩ | ⟨s, k, stands, on, room, lands, rfl⟩ := h.cases
  · have hreach := Engine.reach_of_disabled stands off
    refine ⟨Engine.steps_congr hreach, ?_, fun v => ?_⟩
    · intro s' hover
      obtain rfl := Option.some.inj (stands.symm.trans hover.stands)
      exact off hover.on
    · rw [Engine.visits_congr hreach]
      rfl
  · have hreach := Engine.reach_of_enabled stands on
    have hlands : (⟨t.index, s, { t.engine with current := t.index }, true⟩ : Visit).landing =
        some k := lands
    have hbudget : Turn.budget ⟨t.attempts + 1, k, t.success && (t.visit s true).ok,
        (t.visit s true).settled⟩ = t.engine.maxSteps.toNat - (t.attempts + 1) := by
      unfold budget
      rw [hmax]
    rw [hbudget, budget_of_room room, Engine.steps_succ hreach, Engine.visits_succ hreach, hlands]
    refine ⟨rfl, ?_, fun v => ⟨?_, ?_⟩⟩
    · intro s' hover
      have := hover.full
      omega
    · rintro ⟨hv, ha⟩
      rcases List.mem_cons.mp hv with rfl | hv
      · cases ha
      · exact ⟨hv, ha⟩
    · rintro ⟨hv, ha⟩
      exact ⟨List.mem_cons_of_mem _ hv, ha⟩

/-- The loop ends, and it ends as the steps come to their end. -/
theorem ends_rest (t : Turn) : t.Ends t.rest := by
  -- The induction is on the attempts that are left, and then on the indexes that lie ahead.
  induction hleft : t.left using wellFounded_less.induction generalizing t with
  | _ left ih =>
    cases hnext : t.next with
    | inr r =>
      rw [(of_end hnext).1]
      exact .stop hnext
    | inl u =>
      rw [(of_next hnext).1]
      exact .go hnext (ih u.left (hleft ▸ shrinks hnext) u rfl)

/-! ## Turns to come -/

/-- The number of steps that are allowed stays the same, and no more are attempted. -/
theorem attempts_le (h : Relation.ReflTransGen Next t u)
    (ht : t.attempts ≤ t.engine.maxSteps.toNat) :
    u.engine.maxSteps = t.engine.maxSteps ∧ u.attempts ≤ t.engine.maxSteps.toNat := by
  induction h with
  | refl => exact ⟨rfl, ht⟩
  | @tail u w _ hnext ih =>
    obtain ⟨hmax, hle⟩ := ih
    refine ⟨(maxSteps_next hnext).trans hmax, ?_⟩
    obtain ⟨s, -, -, rfl⟩ | ⟨s, k, -, -, room, -, rfl⟩ := hnext.cases
    · exact hle
    · rw [hmax] at room
      dsimp only
      omega

/-- The visits that are no attempts are those of the turns to come whose step would be one too many.
-/
theorem unattempted_iff {v : Visit} :
    (v ∈ t.visits ∧ v.attempted = false) ↔
      ∃ u s, Relation.ReflTransGen Next t u ∧ u.OverAt s ∧ v = u.visit s false := by
  obtain ⟨r, hends⟩ : ∃ r, t.Ends r := ⟨t.rest, t.ends_rest⟩
  induction hends with
  | @stop t r h =>
    rw [(of_end h).2 v]
    constructor
    · rintro ⟨s, hover, hv⟩
      exact ⟨t, s, .refl, hover, hv⟩
    · rintro ⟨u, s, hu, hover, hv⟩
      -- No turn follows, so the turn to come is this one.
      rcases hu.cases_head with rfl | ⟨w, hw, -⟩
      · exact ⟨s, hover, hv⟩
      · cases hw.symm.trans h
  | @go t w r h _ ih =>
    obtain ⟨-, hnot, hvisits⟩ := of_next h
    rw [hvisits v, ih]
    constructor
    · rintro ⟨u, s, hu, hover, hv⟩
      exact ⟨u, s, hu.head h, hover, hv⟩
    · rintro ⟨u, s, hu, hover, hv⟩
      rcases hu.cases_head with rfl | ⟨w', hw', hu⟩
      · exact absurd hover (hnot s)
      · obtain rfl := h.unique hw'
        exact ⟨u, s, hu, hover, hv⟩

end Turn

end Deskwork
