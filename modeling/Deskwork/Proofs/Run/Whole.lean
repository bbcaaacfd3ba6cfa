/-
# Whole Runs

A run begins with a clear context, makes its steps ready, carries them out along its trail, and is
concluded: who watches is told, and the context is cleared again (`run_eq`). An idle engine whose
log cannot be written to does not get that far (`run_of_not_ready`).
-/
import Deskwork.Proofs.Run.Trail

namespace Deskwork

/-! ## Preparation -/

/-- The slot made ready for a run: nothing but the count of its visits is left of its progress. -/
def Slot.cleared (place : Nat) (s : Slot) : Slot :=
  { s with progress := ⟨none, none, 0, s.progress.visits, place⟩ }

namespace Engine

/-- Every slot is made ready for its own position. -/
theorem resetSlots_fst (place : Nat) (d : Desk) (slots : List Slot) :
    (resetSlots place d slots).1 = slots.mapIdx fun i s => s.cleared (place + i + 1) := by
  induction slots generalizing place d with
  | nil => rfl
  | cons s rest ih =>
    rw [List.mapIdx_cons, resetSlots]
    dsimp only [Slot.resetState]
    rw [ih]
    congr 2
    funext i t
    rw [Nat.add_right_comm place 1 i, Nat.add_assoc place i 1]

/-- Nothing that belongs to a run happens while slots are made ready. -/
theorem quiet_resetSlots (place : Nat) (d : Desk) (slots : List Slot) :
    d.Quiet (resetSlots place d slots).2 := by
  induction slots generalizing place d with
  | nil => exact .refl d
  | cons s rest ih =>
    have hreset : d.Quiet (s.work.noteReset d) := by
      cases s.work with
      | action a => exact .refl d
      | probe p => exact d.quiet_record rfl
      | bare => exact .refl d
    rw [resetSlots]
    exact hreset.trans (ih ..)

/-- The slots of the engine made ready. -/
def clearedSlots (e : Engine) : List Slot := e.slots.mapIdx fun i s => s.cleared (i + 1)

theorem getElem?_clearedSlots (e : Engine) (i : Nat) :
    e.clearedSlots[i]? = (e.slots[i]?).map (Slot.cleared (i + 1)) :=
  List.getElem?_mapIdx ..

/-- The slots that are made ready for a run are the authored ones. -/
theorem map_asNew_clearedSlots (e : Engine) :
    e.clearedSlots.map Slot.asNew = e.slots.map Slot.asNew := by
  refine List.ext_getElem? fun i => ?_
  rw [List.getElem?_map, List.getElem?_map, getElem?_clearedSlots, Option.map_map]
  rfl

/-- The desk after the slots were made ready. -/
def resetDesk (e : Engine) : Desk := (resetSlots 0 e.desk e.slots).2

theorem quiet_resetDesk (e : Engine) : e.desk.Quiet e.resetDesk := quiet_resetSlots ..

/-- Preparation clears the slots; a bad reference becomes the error of its step. -/
theorem prepare_eq (e : Engine) :
    e.prepare =
      match badReference e.slots.length 0 e.clearedSlots with
      | none => (none, { e with slots := e.clearedSlots, desk := e.resetDesk })
      | some (index, s, target) =>
        (some (.control (.badReference (index + 1 : Nat) s.name target e.slots.length)),
          { e with slots := e.clearedSlots, desk := e.resetDesk }.modifySlot index
            (withError (some (missingStepText target e.slots.length)))) := by
  have hslots : (resetSlots 0 e.desk e.slots).1 = e.clearedSlots := by
    rw [resetSlots_fst]
    simp only [Nat.zero_add]
    rfl
  unfold prepare
  dsimp only
  rw [hslots]
  rcases badReference e.slots.length 0 e.clearedSlots with _ | ⟨index, s, target⟩
  · rfl
  · rfl

/-- An engine that was made ready has its slots cleared. -/
theorem slots_prepare {e : Engine} (h : e.prepare.1 = none) :
    e.prepare.2.slots = e.clearedSlots := by
  rw [e.prepare_eq] at h ⊢
  split at h
  · rfl
  · cases h

/-! ## From the beginning to the end -/

/-- The engine that is about to run some steps, or its own, with a clear context. -/
def opened (e : Engine) (slots : Option (List Slot)) : Engine :=
  clearContext { e with running := true, slots := slots.getD e.slots, firstError := none }

/-- The engine after a run has begun. -/
def begun (e : Engine) (slots : Option (List Slot)) : Engine :=
  (e.opened slots).info
    ("=== Script started (" ++ toString (e.opened slots).slots.length ++ " action(s)) ===")

/-- The visits of a run that has begun. -/
def trail (e : Engine) : List Visit :=
  match e.prepare with
  | (some _, _) => []
  | (none, e) => visits e.maxSteps.toNat 0 e

/-- How the steps of a run that has begun come to an end, and the engine then. -/
def ended (e : Engine) : Ending × Engine :=
  match e.prepare with
  | (some why, e) => (.lost why, e)
  | (none, e) => steps e.maxSteps.toNat 0 true e

/-- A run concluded after its steps came to an end. -/
def conclude (e : Engine) : Ending → Except Fault Bool × Engine
  | .finished success => (.ok success, e.announce success)
  | .lost why => (.ok false, (e.fail why).2.announce false)
  | .broken why => (.error why, e)

theorem carryOut_eq (e : Engine) : e.carryOut = e.ended.2.conclude e.ended.1 := by
  unfold carryOut ended
  rcases e.prepare with ⟨_ | why, e'⟩
  · dsimp only
    rcases steps e'.maxSteps.toNat 0 true e' with ⟨_ | _ | _, e''⟩ <;> rfl
  · rfl

/-- Clearing the context leaves the desk steady. -/
theorem steady_clearContext (e : Engine) : e.desk.Steady e.clearContext.desk :=
  e.context.steady_clear e.desk

theorem steady_opened (e : Engine) (slots : Option (List Slot)) :
    e.desk.Steady (e.opened slots).desk :=
  e.context.steady_clear e.desk

/-- The desk is steady when a run has begun. -/
theorem steady_begun (e : Engine) (slots : Option (List Slot)) :
    e.desk.Steady (e.begun slots).desk :=
  (e.steady_opened slots).trans (Desk.steady_logged _ _ _ _)

/-- An idle engine carries its steps out to their end and concludes the run. -/
theorem run_eq {e : Engine} (h : e.running = false) (hready : e.desk.log.ready = .ok ())
    (slots : Option (List Slot)) :
    e.run slots =
      (((e.begun slots).ended.2.conclude (e.begun slots).ended.1).1,
        ((e.begun slots).ended.2.conclude (e.begun slots).ended.1).2.finish) := by
  have hclear : (e.opened slots).desk.log.ready = .ok () :=
    (e.steady_opened slots).ready.trans hready
  unfold opened at hclear
  unfold run runOnce
  rw [if_neg (by simp [h])]
  dsimp only
  rw [hclear, ← carryOut_eq]
  rfl

/-- When the log cannot be written to, a run raises the fault of the log, and no step is visited. -/
theorem run_of_not_ready {e : Engine} (h : e.running = false) {f : Fault}
    (hready : e.desk.log.ready = .error f) (slots : Option (List Slot)) :
    e.run slots = (.error f, (e.opened slots).finish) := by
  have hclear : (e.opened slots).desk.log.ready = .error f :=
    (e.steady_opened slots).ready.trans hready
  unfold opened at hclear
  unfold run runOnce
  rw [if_neg (by simp [h])]
  dsimp only
  rw [hclear]
  rfl

/-! ## What a whole run comes to -/

/-- Where control was lost outside of the steps' own failures or in them: in the preparation, or at
the last visit. -/
def lostControl (e : Engine) : Option Fault :=
  match e.prepare.1 with
  | some why => some why
  | none => e.trail.getLast?.bind Visit.fault

/-- An engine that could not be made ready visits nothing. -/
theorem trail_of_problem {e : Engine} {why : Fault} (h : e.prepare.1 = some why) :
    e.trail = [] ∧ e.ended = (.lost why, e.prepare.2) := by
  unfold trail ended
  rw [show e.prepare = (some why, e.prepare.2) from Prod.ext h rfl]
  exact ⟨rfl, rfl⟩

/-- The steps of an engine that was made ready are a passage along its trail. -/
theorem passage_trail {e : Engine} (h : e.prepare.1 = none) :
    Passage 0 true e.prepare.2 e.trail e.ended.1 e.ended.2 := by
  have hp : e.prepare = (none, e.prepare.2) := Prod.ext h rfl
  unfold trail ended
  rw [hp]
  exact passage_steps ..

theorem prepare_snd (e : Engine) :
    e.desk.Steady e.prepare.2.desk ∧ e.prepare.2.observer = e.observer ∧
      e.prepare.2.firstError = e.firstError ∧ e.prepare.2.maxSteps = e.maxSteps := by
  rw [e.prepare_eq]
  split
  · exact ⟨e.quiet_resetDesk.steady, rfl, rfl, rfl⟩
  · exact ⟨e.quiet_resetDesk.steady, rfl, rfl, rfl⟩

theorem running_prepare (e : Engine) : e.prepare.2.running = e.running := by
  rw [e.prepare_eq]
  split
  · rfl
  · rfl

/-- A visit is an attempt as long as the number of steps is not exceeded. -/
theorem attempted_trail {e : Engine} {k : Nat} {v : Visit} (h : e.trail[k]? = some v) :
    v.attempted = true ↔ (k : Int) < e.maxSteps := by
  cases hprepare : e.prepare.1 with
  | some why =>
    rw [(trail_of_problem hprepare).1] at h
    cases h
  | none =>
    obtain ⟨-, -, -, hmax⟩ := e.prepare_snd
    unfold trail at h
    rw [show e.prepare = (none, e.prepare.2) from Prod.ext hprepare rfl] at h
    rw [attempted_visits h, decide_eq_true_iff, hmax]
    omega

/-- How the steps of a run come to an end. -/
theorem ended_spec (e : Engine) :
    match e.ended.1 with
    | .finished ok => (∀ v ∈ e.trail, v.broken = false) ∧
        (ok = true ↔ ∀ v ∈ e.trail, v.ok = true) ∧
        ((∀ v ∈ e.trail, v.ok = true) → e.lostControl = none)
    | .lost f => (∀ v ∈ e.trail, v.broken = false) ∧ e.lostControl = some f
    | .broken f => (∃ v ∈ e.trail, v.broken = true) ∧ e.lostControl = some f := by
  unfold lostControl
  cases h : e.prepare.1 with
  | some why =>
    obtain ⟨htrail, hended⟩ := trail_of_problem h
    rw [htrail, hended]
    simp
  | none =>
    have hfits := (passage_trail h).fits
    unfold Ending.Fits at hfits
    cases hended : e.ended.1 with
    | finished ok => simpa [hended] using hfits
    | lost f => simpa [hended] using hfits
    | broken f => simpa [hended] using hfits

/-- Until its steps come to an end, a run gains a note for every visit. -/
theorem gains_ended {e : Engine} (hb : ∀ v ∈ e.trail, v.broken = false) :
    e.desk.Gains e.ended.2.desk (e.notes (e.trail.map Visit.notice)) := by
  obtain ⟨hsteady, hobserver, -, -⟩ := e.prepare_snd
  cases h : e.prepare.1 with
  | some why =>
    obtain ⟨htrail, hended⟩ := trail_of_problem h
    rw [htrail, hended, List.map_nil, notes_nil]
    exact hsteady.gains
  | none =>
    have hgains := (passage_trail h).gains hb
    rw [notes_congr hobserver] at hgains
    exact hsteady.gain hgains

/-- The same one watches until the steps come to an end. -/
theorem observer_ended (e : Engine) : e.ended.2.observer = e.observer := by
  obtain ⟨-, hobserver, -, -⟩ := e.prepare_snd
  cases h : e.prepare.1 with
  | some why => rw [(trail_of_problem h).2, hobserver]
  | none => rw [(passage_trail h).moved.observer, hobserver]

/-- When the steps come to an end, the first failure among the visits is kept. -/
theorem firstError_ended {e : Engine} (hb : ∀ v ∈ e.trail, v.broken = false) :
    e.ended.2.firstError =
      e.firstError.or ((e.trail.find? fun v => !v.ok).map Visit.summary) := by
  obtain ⟨-, -, hfirst, -⟩ := e.prepare_snd
  cases h : e.prepare.1 with
  | some why =>
    obtain ⟨htrail, hended⟩ := trail_of_problem h
    rw [htrail, hended, hfirst]
    simp
  | none => rw [(passage_trail h).firstError_eq hb, hfirst]

/-! ## The conclusion -/

/-- The note of the end of a run. -/
def completion (e : Engine) (ok : Bool) : Event :=
  .completed ok e.current (sorted (Table.keys e.context.resources))

/-- Telling the observer of the end changes nothing but the desk, where it may take a note. -/
theorem notifyEnd_eq (e : Engine) (ok : Bool) :
    ∃ d, e.notifyEnd ok = { e with desk := d } ∧ e.desk.Gains d (e.notes [e.completion ok]) := by
  have h := e.desk.gains_record (e := e.completion ok) rfl
  unfold notifyEnd notes
  dsimp only
  split
  · next ho => exact ⟨e.desk, rfl, by rw [ho]; exact (Desk.Steady.refl e.desk).gains⟩
  · next ho => exact ⟨_, rfl, by rw [ho]; exact h⟩
  · next ho => exact ⟨_, rfl, by rw [ho]; exact h⟩
  · next ho => exact ⟨_, rfl, by rw [ho]; exact h.steady (Desk.steady_logged _ _ _ _)⟩
  · next ho => exact ⟨_, rfl, by rw [ho]; exact (Desk.steady_record _ rfl).gains⟩

theorem announce_eq (e : Engine) (ok : Bool) :
    ∃ d, e.announce ok = { e with desk := d } ∧ e.desk.Gains d (e.notes [e.completion ok]) := by
  unfold announce
  generalize hq : e.info _ = q
  obtain ⟨d, hd, hgains⟩ := q.notifyEnd_eq ok
  subst hq
  exact ⟨d, hd, (Desk.steady_logged e.desk _ _ _).gain hgains⟩

theorem fail_eq (e : Engine) (why : Fault) :
    ∃ d, (e.fail why).2 =
        { e with desk := d, firstError := e.firstError.or (some why.message) } ∧
      e.desk.Steady d := by
  refine ⟨e.desk.error engineSource why.message, ?_, Desk.steady_logged _ _ _ _⟩
  rcases e with ⟨_, _, _, _, _, _, _, _ | message, _⟩
  · rfl
  · rfl

/-- A run that was not broken off is announced; a loss of control between the steps counts as its
first error when no step failed. -/
theorem conclude_eq (e : Engine) (ending : Ending) :
    ∃ d, (e.conclude ending).2 =
        { e with
          desk := d
          firstError := e.firstError.or (match ending with
            | .lost why => some why.message
            | _ => none) } ∧
      e.desk.Gains d (match (e.conclude ending).1 with
        | .ok ok => e.notes [e.completion ok]
        | .error _ => []) := by
  cases ending with
  | finished ok =>
    obtain ⟨d, hd, hgains⟩ := e.announce_eq ok
    refine ⟨d, ?_, hgains⟩
    rw [Option.or_none]
    exact hd
  | lost why =>
    obtain ⟨d, hfail, hd⟩ := e.fail_eq why
    obtain ⟨d', hd', hgains⟩ := (e.fail why).2.announce_eq false
    rw [hfail] at hgains
    refine ⟨d', ?_, hd.gain hgains⟩
    show (e.fail why).2.announce false = _
    rw [hd', hfail]
  | broken why =>
    refine ⟨e.desk, ?_, (Desk.Steady.refl e.desk).gains⟩
    rw [Option.or_none]
    rfl

/-! ## Runs that return -/

/-- What is left of a run that returned: no visit broke it off, its first error is the first failure
or else how control was lost, and who watches took a note of every visit and of the end. -/
structure Returned (start : Engine) (ok : Bool) (e : Engine) : Prop where
  /-- No visit broke it off. -/
  unbroken : ∀ v ∈ start.trail, v.broken = false
  /-- It succeeds when control was not lost and no step failed. -/
  success : ok = true ↔ start.lostControl = none ∧ ∀ v ∈ start.trail, v.ok = true
  /-- Its first error. -/
  firstError : e.firstError = ((start.trail.find? fun v => !v.ok).map Visit.summary).or
    (start.lostControl.map Fault.message)
  /-- Its steps are left as they were when they came to an end. -/
  slots : e.slots = start.ended.2.slots
  /-- The notes. -/
  gains : start.desk.Gains e.desk
    (start.notes (start.trail.map Visit.notice ++ [start.ended.2.completion ok]))

/-- A run that is concluded with a result has returned. -/
theorem returned_of_conclude {start e : Engine} {ok : Bool} (hfirst : start.firstError = none)
    (h : start.ended.2.conclude start.ended.1 = (.ok ok, e)) : Returned start ok e := by
  have hspec := start.ended_spec
  obtain ⟨d, hd, hgains⟩ := start.ended.2.conclude_eq start.ended.1
  rw [h] at hd hgains
  dsimp only at hd hgains
  subst hd
  have hnotes : (∀ v ∈ start.trail, v.broken = false) → start.desk.Gains d
      (start.notes (start.trail.map Visit.notice ++ [start.ended.2.completion ok])) := by
    intro hb
    rw [notes_congr start.observer_ended] at hgains
    rw [notes_append]
    exact (gains_ended hb).trans hgains
  -- How the steps came to an end decides both the result and the first error.
  cases hending : start.ended.1 with
  | finished b =>
    rw [hending] at hspec h
    obtain ⟨hb, hsuccess, hcontrol⟩ := hspec
    obtain rfl : b = ok := by
      have := congrArg Prod.fst h
      exact Except.ok.inj this
    refine ⟨hb, ?_, ?_, rfl, hnotes hb⟩
    · rw [hsuccess]
      exact ⟨fun hall => ⟨hcontrol hall, hall⟩, fun hall => hall.2⟩
    · dsimp only
      rw [firstError_ended hb, hfirst, Option.none_or, Option.or_none]
      cases hfind : start.trail.find? fun v => !v.ok with
      | some v => rfl
      | none =>
        have hall : ∀ v ∈ start.trail, v.ok = true := by simpa using hfind
        rw [hcontrol hall]
        rfl
  | lost f =>
    rw [hending] at hspec h
    obtain ⟨hb, hcontrol⟩ := hspec
    obtain rfl : false = ok := by
      have := congrArg Prod.fst h
      exact Except.ok.inj this
    refine ⟨hb, by simp [hcontrol], ?_, rfl, hnotes hb⟩
    dsimp only
    rw [firstError_ended hb, hfirst, Option.none_or, hcontrol]
    rfl
  | broken f =>
    rw [hending] at h
    cases congrArg Prod.fst h

/-- The run of an idle engine that returns, seen from the moment when it has begun. -/
theorem run_returned {e e' : Engine} {slots : Option (List Slot)} {ok : Bool}
    (h : e.running = false) (hrun : e.run slots = (.ok ok, e')) :
    Returned (e.begun slots) ok e' := by
  cases hready : e.desk.log.ready with
  | error f =>
    rw [run_of_not_ready h hready] at hrun
    cases congrArg Prod.fst hrun
  | ok u =>
    rw [run_eq h hready] at hrun
    obtain ⟨hok, rfl⟩ := Prod.mk.inj hrun
    have hreturned : Returned (e.begun slots) ok _ := returned_of_conclude rfl (Prod.ext hok rfl)
    exact ⟨hreturned.unbroken, hreturned.success, hreturned.firstError, hreturned.slots,
      hreturned.gains.steady (steady_clearContext _)⟩

end Engine

end Deskwork
