/-
# Stretches of a Run

A stretch leads from one index to another, by visits after each of which the run goes on and all
steps are enabled as before. A run that has enough steps left goes along it (`visits_eq`,
`steps_eq`). Every step stays where it stands, and only a visit changes its count (`stands`,
`counts`).
-/
import Deskwork.Proofs.Run.Trail

namespace Deskwork

open StepM

/-! ## Stretches -/

/-- The run goes on from one index to another by way of some visits. -/
inductive Stretch : Nat → Engine → List Visit → Nat → Engine → Prop where
  /-- There is nothing to visit. -/
  | here {index e} : Stretch index e [] index e
  /-- A step is attempted, and the run goes on. -/
  | on {index e next vs last e'} (v : Visit) (attempted : v.attempted = true)
      (h : e.reach index = (some (v.index, v.slot), v.before)) (lands : v.landing = some next)
      (enabled : v.settled.slots.map Slot.enabled = v.before.slots.map Slot.enabled)
      (rest : Stretch next v.settled vs last e') : Stretch index e (v :: vs) last e'

namespace Stretch

variable {index next last : Nat} {e e' e'' : Engine} {vs ws : List Visit}

theorem trans (h : Stretch index e vs next e') (h' : Stretch next e' ws last e'') :
    Stretch index e (vs ++ ws) last e'' := by
  induction h with
  | here => exact h'
  | on v attempted hv lands enabled _ ih => exact .on v attempted hv lands enabled (ih h')

/-- The visits of a run go along a stretch. -/
theorem visits_eq (h : Stretch index e vs next e') (budget : Nat) :
    Engine.visits (vs.length + budget) index e = vs ++ Engine.visits budget next e' := by
  induction h with
  | here => rw [List.length_nil, Nat.zero_add, List.nil_append]
  | on v attempted hv lands _ _ ih =>
    obtain ⟨index, s, before, _⟩ := v
    obtain rfl : _ = true := attempted
    rw [List.length_cons, Nat.add_right_comm, Engine.visits_succ hv, lands, List.cons_append, ← ih]

/-- The steps of a run go along a stretch. -/
theorem steps_eq (h : Stretch index e vs next e') (budget : Nat) (success : Bool) :
    Engine.steps (vs.length + budget) index success e =
      Engine.steps budget next (success && vs.all Visit.ok) e' := by
  induction h generalizing success with
  | here => rw [List.length_nil, Nat.zero_add, List.all_nil, Bool.and_true]
  | on v attempted hv lands _ _ ih =>
    obtain ⟨index, s, before, _⟩ := v
    obtain rfl : _ = true := attempted
    rw [List.length_cons, Nat.add_right_comm, Engine.steps_succ hv, lands, List.all_cons,
      ← Bool.and_assoc]
    exact ih _

/-- All visits of a stretch are attempts. -/
theorem attempted (h : Stretch index e vs next e') : ∀ v ∈ vs, v.attempted = true := by
  induction h with
  | here => simp
  | on v attempted _ _ _ _ ih => exact List.forall_mem_cons.mpr ⟨attempted, ih⟩

/-- A stretch moves the steps that it visits. -/
theorem moved (h : Stretch index e vs next e') : e.Moved (vs.map Visit.index) e' := by
  induction h with
  | here => exact .refl _
  | on v _ hv _ _ _ ih => exact (Passage.moved_visit hv).trans ih

/-- All steps are enabled as before. -/
theorem map_enabled (h : Stretch index e vs next e') :
    e'.slots.map Slot.enabled = e.slots.map Slot.enabled := by
  induction h with
  | here => rfl
  | on v _ hv _ enabled _ ih =>
    obtain ⟨⟨d, current, hbefore, -⟩, -⟩ := Engine.reach_some hv
    rw [ih, enabled, hbefore]

/-- The user is known after a stretch as before. -/
theorem userName_eq (h : Stretch index e vs next e') : e'.desk.userName = e.desk.userName := by
  induction h with
  | here => rfl
  | on v _ hv lands _ _ ih =>
    rw [ih]
    unfold Desk.userName
    rw [(Passage.gains_visit hv (Visit.of_landing lands).1).user]

end Stretch

/-! ## What stands at an index -/

namespace Engine

/-- A step stands at an index, whatever progress it has made. -/
def Stands (e : Engine) (index : Nat) (s : Slot) : Prop :=
  ∃ t, e.slots[index]? = some t ∧ t.asNew = s

/-- A step stands at an index and has counted some repetitions. -/
def Counts (e : Engine) (index : Nat) (s : Slot) (n : Int) : Prop :=
  ∃ t, e.slots[index]? = some t ∧ t.asNew = s ∧ t.progress.iteration = n

theorem Counts.stands {e : Engine} {index : Nat} {s : Slot} {n : Int} (h : e.Counts index s n) :
    e.Stands index s := by
  obtain ⟨t, ht, hs, -⟩ := h
  exact ⟨t, ht, hs⟩

end Engine

namespace Stretch

variable {index next k : Nat} {e e' : Engine} {vs : List Visit} {s : Slot}

/-- What became of the slot at an index. -/
theorem slot_later (h : Stretch index e vs next e') {t : Slot} (ht : e.slots[k]? = some t) :
    ∃ u, e'.slots[k]? = some u ∧ u.asNew = t.asNew ∧
      (k ∉ vs.map Visit.index → u.progress = t.progress) := by
  -- Moves tell where a later slot comes from; as many slots are left, so there is one.
  obtain ⟨hk, -⟩ := List.getElem?_eq_some_iff.mp ht
  rw [← h.moved.length] at hk
  have hu := List.getElem?_eq_getElem hk
  obtain ⟨t', ht', hlater, hprogress⟩ := h.moved.slots hu
  obtain rfl := Option.some.inj (ht.symm.trans ht')
  have henabled := congrArg (·[k]?) h.map_enabled
  simp only [List.getElem?_map, hu, ht, Option.map_some, Option.some.injEq] at henabled
  refine ⟨_, hu, ?_, hprogress⟩
  unfold Slot.asNew
  rw [henabled, hlater.work, hlater.continueOnError]

/-- Every step stays where it stands. -/
theorem stands (h : Stretch index e vs next e') (hs : e.Stands k s) : e'.Stands k s := by
  obtain ⟨t, ht, rfl⟩ := hs
  obtain ⟨u, hu, hsame, -⟩ := h.slot_later ht
  exact ⟨u, hu, hsame⟩

/-- A step that is not visited counts no repetition. -/
theorem counts (h : Stretch index e vs next e') {n : Int} (hk : k ∉ vs.map Visit.index)
    (hs : e.Counts k s n) : e'.Counts k s n := by
  obtain ⟨t, ht, rfl, rfl⟩ := hs
  obtain ⟨u, hu, hsame, hprogress⟩ := h.slot_later ht
  exact ⟨u, hu, hsame, by rw [hprogress hk]⟩

end Stretch

/-! ## Single visits -/

namespace Engine

/-- The visit to an enabled step at an index. -/
def visit (e : Engine) (index : Nat) (s : Slot) : Visit :=
  ⟨index, s, { e with current := index }, true⟩

variable {e : Engine} {index next budget : Nat} {s : Slot}

/-- The run comes to an enabled step at once. -/
theorem visit_mem (hs : e.slots[index]? = some s) (henabled : s.enabled = true) :
    e.visit index s ∈ visits (budget + 1) index e := by
  rw [visits_succ (reach_of_enabled hs henabled)]
  split
  · exact List.mem_singleton_self _
  · exact List.mem_cons_self

/-- The visit to an enabled step is a stretch when the run goes on after it and all steps are
enabled as before. -/
theorem stretch_visit (hs : e.slots[index]? = some s) (henabled : s.enabled = true)
    (hlands : (e.visit index s).landing = some next)
    (hafter : (e.visit index s).after.slots.map Slot.enabled = e.slots.map Slot.enabled) :
    Stretch index e [e.visit index s] next (e.visit index s).settled :=
  .on _ rfl (reach_of_enabled hs henabled) hlands
    ((e.visit index s).map_enabled_settled.trans hafter) .here

end Engine

namespace Visit

/-- A step that succeeds requests what its session says, and keeps the progress of the session. -/
theorem of_guarded {v : Visit} (ha : v.attempted = true)
    (hslot : v.before.slots[v.index]? = some v.slot) {work : Work} {s : Session}
    (hwork : v.readied.1 = .ok work)
    (hrun : runIn (v.session work) (Engine.guarded work) = (.ok true, s)) :
    v.result = .ok true ∧ v.request = s.progress.control ∧
      ∃ t, v.settled.slots[v.index]? = some t ∧ t.progress.iteration = s.progress.iteration := by
  have houtcome := v.outcome_eq ha
  rw [hwork] at houtcome
  dsimp only at houtcome
  rw [hrun] at houtcome
  have hresult : v.result = .ok true := congrArg Prod.fst houtcome
  have hafter : v.after = v.readied.2.absorb v.index s := congrArg Prod.snd houtcome
  have hunbroken : v.broken = false := by
    unfold broken
    rw [hresult]
  have hsettled : v.settled.slots = v.after.slots := by
    obtain ⟨d, hd, -⟩ := v.settled_eq hunbroken
    rw [hd]
    unfold noted
    rw [hresult]
  have hslots := v.readied.2.getElem?_absorb v.index s v.index
  rw [show v.readied.2.slots[v.index]? = some v.slot from hslot, ← hafter, Option.map_some,
    if_pos rfl] at hslots
  refine ⟨hresult, ?_, ?_⟩
  · unfold request
    rw [hslots]
    rfl
  · rw [hsettled, hslots]
    exact ⟨_, rfl, rfl⟩

end Visit

end Deskwork
