/-
# Earlier Visits Do Not Matter

A slot counts its visits, and a run never resets the count. For actions the count is idle: giving
the slots of an engine some earlier visits, and its script another name, commutes with everything
that a run does (`run_recounted` and the lemmas before it). Only probes look at the count.
-/
import Deskwork.Proofs.Run.Whole

namespace Deskwork

open StepM

/-! ## Slots and engines with earlier visits -/

/-- The slot with `n` earlier visits more. -/
def Slot.ahead (n : Nat) (s : Slot) : Slot :=
  { s with progress := { s.progress with visits := s.progress.visits + n } }

/-- Slots with earlier visits: `c i` more at the index `i`. -/
def aheadAll (c : Nat → Nat) (slots : List Slot) : List Slot :=
  slots.mapIdx fun i s => s.ahead (c i)

theorem getElem?_aheadAll (c : Nat → Nat) (slots : List Slot) (i : Nat) :
    (aheadAll c slots)[i]? = (slots[i]?).map (Slot.ahead (c i)) :=
  List.getElem?_mapIdx ..

theorem length_aheadAll (c : Nat → Nat) (slots : List Slot) :
    (aheadAll c slots).length = slots.length :=
  List.length_mapIdx

/-- What does not look at the count of visits reads the same from the slots. -/
theorem map_aheadAll {α : Type} {f : Slot → α} (hf : ∀ n s, f (s.ahead n) = f s) (c : Nat → Nat)
    (slots : List Slot) : (aheadAll c slots).map f = slots.map f := by
  refine List.ext_getElem? fun i => ?_
  rw [List.getElem?_map, List.getElem?_map, getElem?_aheadAll, Option.map_map]
  cases slots[i]? with
  | none => rfl
  | some s => exact congrArg some (hf _ s)

theorem drop_aheadAll (c : Nat → Nat) (slots : List Slot) (k : Nat) :
    (aheadAll c slots).drop k = aheadAll (fun i => c (k + i)) (slots.drop k) := by
  refine List.ext_getElem? fun i => ?_
  rw [List.getElem?_drop, getElem?_aheadAll, getElem?_aheadAll, List.getElem?_drop]

theorem aheadAll_cons (c : Nat → Nat) (index : Nat) (s : Slot) (rest : List Slot) :
    aheadAll (fun i => c (index + i)) (s :: rest) =
      s.ahead (c index) :: aheadAll (fun i => c (index + 1 + i)) rest := by
  unfold aheadAll
  rw [List.mapIdx_cons]
  congr 2
  funext i t
  show Slot.ahead (c (index + (i + 1))) t = Slot.ahead (c (index + 1 + i)) t
  rw [Nat.add_assoc, Nat.add_comm 1 i]

namespace Engine

/-- The engine with earlier visits of its slots and another name of its script. -/
def recounted (c : Nat → Nat) (name : String) (e : Engine) : Engine :=
  { e with slots := aheadAll c e.slots, scriptName := name }

variable {c : Nat → Nat} {name : String}

theorem lastError_recounted (e : Engine) (i : Nat) :
    (e.recounted c name).lastError i = e.lastError i := by
  unfold lastError recounted
  dsimp only
  rw [getElem?_aheadAll]
  cases e.slots[i]? <;> rfl

theorem modifySlot_recounted (e : Engine) (i : Nat) (message : Option String) :
    (e.recounted c name).modifySlot i (withError message) =
      (e.modifySlot i (withError message)).recounted c name := by
  have hslots : (aheadAll c e.slots).modify i (withError message) =
      aheadAll c (e.slots.modify i (withError message)) := by
    refine List.ext_getElem? fun k => ?_
    rw [List.getElem?_modify, getElem?_aheadAll, getElem?_aheadAll, List.getElem?_modify]
    cases e.slots[k]? with
    | none => rfl
    | some s =>
      by_cases h : i = k
      · simp [h, withError, Slot.ahead]
      · simp [h]
  unfold modifySlot recounted
  dsimp only
  rw [hslots]

theorem summary_recounted (e : Engine) (i n : Nat) (s : Slot) :
    (e.recounted c name).summary i (s.ahead n) = e.summary i s := by
  unfold summary
  rw [lastError_recounted]
  rfl

theorem recordFailure_recounted (e : Engine) (i n : Nat) (s : Slot) :
    (e.recounted c name).recordFailure i (s.ahead n) = (e.recordFailure i s).recounted c name := by
  rw [Visit.recordFailure_eq, Visit.recordFailure_eq, summary_recounted]
  rfl

theorem executedEvent_recounted (e : Engine) (i n : Nat) (s : Slot) (ok : Bool) :
    (e.recounted c name).executedEvent i (s.ahead n) ok = e.executedEvent i s ok := by
  unfold executedEvent
  rw [lastError_recounted]
  unfold recounted
  dsimp only
  rw [getElem?_aheadAll, Option.map_map]
  rfl

theorem notifyStep_recounted (e : Engine) (i n : Nat) (s : Slot) (ok : Bool) :
    (e.recounted c name).notifyStep i (s.ahead n) ok =
      (e.notifyStep i s ok).recounted c name := by
  have hobserver : (e.recounted c name).observer = e.observer := rfl
  unfold notifyStep
  rw [executedEvent_recounted, hobserver]
  cases e.observer <;> rfl

theorem loseControl_recounted (e : Engine) (i n : Nat) (s : Slot) (why : Fault) :
    (e.recounted c name).loseControl i (s.ahead n) why =
      (e.loseControl i s why).recounted c name := by
  unfold loseControl
  dsimp only
  rw [modifySlot_recounted, recordFailure_recounted, notifyStep_recounted]
  rfl

theorem follow_recounted (e : Engine) (i n : Nat) (s : Slot) (success : Bool) :
    (e.recounted c name).follow i (s.ahead n) success =
      ((e.follow i s success).1, (e.follow i s success).2.recounted c name) := by
  have hcontrol : (((e.recounted c name).slots[i]?).bind fun s => s.progress.control) =
      (e.slots[i]?).bind fun s => s.progress.control := by
    unfold recounted
    dsimp only
    rw [getElem?_aheadAll]
    cases e.slots[i]? <;> rfl
  have hlength : (e.recounted c name).slots.length = e.slots.length := length_aheadAll ..
  unfold follow
  rw [hcontrol, hlength]
  split
  · rfl
  · split
    · rfl
    · rfl
    · split <;> rfl
    · split <;> rfl
    · rfl

theorem settle_recounted (e : Engine) (i n : Nat) (s : Slot) (success : Bool)
    (r : Except Fault Bool) :
    (e.recounted c name).settle i (s.ahead n) success r =
      ((e.settle i s success r).1, (e.settle i s success r).2.recounted c name) := by
  unfold settle
  rcases r with f | _ | _
  · dsimp only
    rw [loseControl_recounted]
    split
    · rfl
    · rfl
  · dsimp only
    rw [notifyStep_recounted, recordFailure_recounted]
    show (if s.continueOnError = true then _ else _) = _
    split
    · rfl
    · rfl
  · dsimp only
    rw [notifyStep_recounted, follow_recounted]

/-! ## Steps -/

theorem absorb_recounted (e : Engine) (i : Nat) (s : Session) :
    (e.recounted c name).absorb i (ahead (c i) s) = (e.absorb i s).recounted c name := by
  have hslots : ((e.recounted c name).absorb i (ahead (c i) s)).slots =
      aheadAll c (e.absorb i s).slots := by
    refine List.ext_getElem? fun k => ?_
    rw [getElem?_absorb, getElem?_aheadAll, getElem?_absorb]
    show ((aheadAll c e.slots)[k]?).map _ = _
    rw [getElem?_aheadAll, Option.map_map, Option.map_map]
    congr 1
    funext t
    by_cases h : i = k
    · simp [h, Slot.ahead, ahead, Nat.add_right_comm]
    · simp [h, Slot.ahead, ahead]
  unfold recounted
  rw [← hslots]
  rfl

end Engine

/-- The visit with earlier visits of all slots. -/
def Visit.recounted (c : Nat → Nat) (name : String) (v : Visit) : Visit :=
  { v with slot := v.slot.ahead (c v.index), before := v.before.recounted c name }

namespace Visit

variable {c : Nat → Nat} {name : String}

theorem readied_recounted (v : Visit) :
    (v.recounted c name).readied = (v.readied.1, v.readied.2.recounted c name) := by
  have hlength : (v.before.recounted c name).slots.length = v.before.slots.length :=
    length_aheadAll ..
  unfold readied recounted
  dsimp only
  rw [hlength]
  rfl

theorem session_recounted (v : Visit) (work : Work) :
    (v.recounted c name).session work = ahead (c v.index) (v.session work) := by
  have htags : (v.recounted c name).before.slots.map (fun s => s.work.tag) =
      v.before.slots.map fun s => s.work.tag := map_aheadAll (fun _ _ => rfl) c v.before.slots
  unfold session
  rw [readied_recounted, htags]
  rfl

end Visit

namespace Engine

variable {c : Nat → Nat} {name : String}

/-- A step that is an action does the same whatever visits came earlier. -/
theorem executeOne_recounted {e : Engine} {i : Nat} {s : Slot} {a : Action}
    (hs : e.slots[i]? = some s) (h : s.work = .action a) :
    (e.recounted c name).executeOne i (s.ahead (c i)) =
      ((e.executeOne i s).1, (e.executeOne i s).2.recounted c name) := by
  have hs' : (e.recounted c name).slots[i]? = some (s.ahead (c i)) := by
    show (aheadAll c e.slots)[i]? = _
    rw [getElem?_aheadAll, hs]
    rfl
  rw [executeOne_eq hs', executeOne_eq hs]
  have houtcome := (⟨i, s, e, true⟩ : Visit).outcome_eq rfl
  have houtcome' := ((⟨i, s, e, true⟩ : Visit).recounted c name).outcome_eq rfl
  rw [Visit.readied_recounted] at houtcome'
  show ((⟨i, s, e, true⟩ : Visit).recounted c name).outcome = (_, _)
  rw [houtcome', show e.executeApart i s = (⟨i, s, e, true⟩ : Visit).outcome from rfl, houtcome]
  -- The templates do not depend on the count, so the same work is attempted.
  cases hwork : (⟨i, s, e, true⟩ : Visit).readied.1 with
  | error f => rfl
  | ok work =>
    obtain ⟨a', rfl⟩ := Visit.action_of_readied (v := ⟨i, s, e, true⟩) h hwork
    dsimp only
    rw [Visit.session_recounted, blind_guarded a' (c i)]
    exact Prod.ext rfl (absorb_recounted ..)

/-! ## Runs -/

theorem passDisabled_recounted (e : Engine) (total index : Nat) (rest : List Slot) :
    (e.recounted c name).passDisabled total index (aheadAll (fun i => c (index + i)) rest) =
      ((e.passDisabled total index rest).1.map fun p => (p.1, p.2.ahead (c p.1)),
        (e.passDisabled total index rest).2.recounted c name) := by
  induction rest generalizing e index with
  | nil => rfl
  | cons s rest ih =>
    rw [aheadAll_cons]
    by_cases h : s.enabled = true
    · rw [passDisabled_of_enabled _ _ _ _ h,
        passDisabled_of_enabled _ _ _ _ (show (s.ahead (c index)).enabled = true from h)]
      rfl
    · rw [passDisabled_of_disabled _ _ _ _ h,
        passDisabled_of_disabled _ _ _ _ (show ¬ (s.ahead (c index)).enabled = true from h), ← ih]
      rfl

theorem reach_recounted (c : Nat → Nat) (name : String) (e : Engine) (index : Nat) :
    (e.recounted c name).reach index =
      ((e.reach index).1.map fun p => (p.1, p.2.ahead (c p.1)),
        (e.reach index).2.recounted c name) := by
  unfold reach
  rw [← passDisabled_recounted, ← drop_aheadAll]
  show passDisabled _ (aheadAll c e.slots).length index ((aheadAll c e.slots).drop index) = _
  rw [length_aheadAll]

/-- The slots of the engine are actions. -/
def ActsOnly (e : Engine) : Prop := ∀ s ∈ e.slots, ∃ a, s.work = .action a

/-- Moves keep actions. -/
theorem ActsOnly.of_moved {xs : List Nat} {e e' : Engine} (h : e.ActsOnly) (hm : e.Moved xs e') :
    e'.ActsOnly := by
  intro t ht
  obtain ⟨i, hi⟩ := List.mem_iff_getElem?.mp ht
  obtain ⟨s, hs, hlater, -⟩ := hm.slots hi
  obtain ⟨a, ha⟩ := h s (List.mem_of_getElem? hs)
  exact ⟨a, hlater.work.trans ha⟩

/-- The steps of an engine with actions only come to the same end whatever visits came earlier. -/
theorem steps_recounted (budget index : Nat) (success : Bool) {e : Engine} (h : e.ActsOnly) :
    steps budget index success (e.recounted c name) =
      ((steps budget index success e).1, (steps budget index success e).2.recounted c name) := by
  -- Both runs reach the same steps, which are blind to the counts, and land at the same indexes.
  induction budget generalizing index success e with
  | zero =>
    have hreach := reach_recounted c name e index
    rcases hr : e.reach index with ⟨_ | ⟨j, s⟩, e'⟩
    · rw [hr] at hreach
      rw [steps_of_none hreach, steps_of_none hr]
    · rw [hr] at hreach
      unfold reach at hreach hr
      rw [steps, steps]
      simp only [hreach, hr]
      exact Prod.ext rfl (loseControl_recounted ..)
  | succ budget ih =>
    have hreach := reach_recounted c name e index
    rcases hr : e.reach index with ⟨_ | ⟨j, s⟩, e'⟩
    · rw [hr] at hreach
      rw [steps_of_none hreach, steps_of_none hr]
    · rw [hr] at hreach
      obtain ⟨⟨d, current, hidle, -⟩, -, -, hs, -⟩ := reach_some hr
      obtain ⟨a, ha⟩ := h s (List.mem_of_getElem? hs)
      have hstands : e'.slots[j]? = some s := by
        rw [hidle]
        exact hs
      -- The engine that goes on still has actions only.
      have hsettled :
          ((e'.executeOne j s).2.settle j s success (e'.executeOne j s).1).2.ActsOnly := by
        have hacts := h.of_moved (Passage.moved_visit (v := ⟨j, s, e', true⟩) hr)
        have hsettle : (e'.executeApart j s).2.settle j s success (e'.executeApart j s).1 = _ :=
          (⟨j, s, e', true⟩ : Visit).settle_eq success
        rw [executeOne_eq hstands, hsettle]
        split
        · exact hacts
        · exact hacts
      unfold reach at hreach hr
      rw [steps, steps]
      simp only [hreach, hr, Option.map_some, executeOne_recounted hstands ha,
        settle_recounted]
      generalize (e'.executeOne j s).2.settle j s success (e'.executeOne j s).1 = p at hsettled ⊢
      rcases p with ⟨_ | _, e''⟩
      · exact ih _ _ hsettled
      · rfl

/-! ## The conclusion -/

theorem notifyEnd_recounted (e : Engine) (ok : Bool) :
    (e.recounted c name).notifyEnd ok = (e.notifyEnd ok).recounted c name := by
  have hobserver : (e.recounted c name).observer = e.observer := rfl
  unfold notifyEnd
  rw [hobserver]
  cases e.observer <;> rfl

theorem announce_recounted (e : Engine) (ok : Bool) :
    (e.recounted c name).announce ok = (e.announce ok).recounted c name := by
  unfold announce
  exact notifyEnd_recounted (e.info _) ok

theorem conclude_recounted (e : Engine) (ending : Ending) :
    (e.recounted c name).conclude ending =
      ((e.conclude ending).1, (e.conclude ending).2.recounted c name) := by
  cases ending with
  | finished ok => exact Prod.ext rfl (announce_recounted ..)
  | lost why =>
    have hfail : ((e.recounted c name).fail why).2 = (e.fail why).2.recounted c name := by
      obtain ⟨_, _, _, _, _, _, _, _ | message, _⟩ := e
      · rfl
      · rfl
    unfold conclude
    dsimp only
    rw [hfail, announce_recounted]
  | broken why => rfl

/-! ## The beginning -/

theorem badReference_aheadAll (total index : Nat) (rest : List Slot) :
    badReference total index (aheadAll (fun i => c (index + i)) rest) =
      (badReference total index rest).map fun p => (p.1, p.2.1.ahead (c p.1), p.2.2) := by
  induction rest generalizing index with
  | nil => rfl
  | cons s rest ih =>
    have henabled : (s.ahead (c index)).enabled = s.enabled := rfl
    have hwork : (s.ahead (c index)).work = s.work := rfl
    rw [aheadAll_cons, badReference, badReference, ih, henabled, hwork]
    cases (if s.enabled then s.work.references.find? (outside total) else none) with
    | some target => rfl
    | none => rfl

/-- Actions leave the desk alone when they are made ready. -/
theorem resetDesk_of_actsOnly {e : Engine} (h : e.ActsOnly) : e.resetDesk = e.desk := by
  have hreset : ∀ (slots : List Slot) (place : Nat) (d : Desk),
      (∀ s ∈ slots, ∃ a, s.work = .action a) → (resetSlots place d slots).2 = d := by
    intro slots
    induction slots with
    | nil => exact fun _ _ _ => rfl
    | cons s rest ih =>
      intro place d hs
      obtain ⟨a, ha⟩ := hs s List.mem_cons_self
      have hnote : s.work.noteReset d = d := by rw [ha]; rfl
      rw [resetSlots]
      dsimp only [Slot.resetState]
      rw [hnote]
      exact ih _ _ fun t ht => hs t (List.mem_cons_of_mem s ht)
  exact hreset e.slots 0 e.desk h

/-- Engines with the same actions are made ready in the same way, up to the earlier visits. -/
theorem prepare_recounted {e : Engine} (h : e.ActsOnly) {slots : List Slot}
    (hslots : ({ e with slots := slots } : Engine).clearedSlots = aheadAll c e.clearedSlots)
    (hacts : ({ e with slots := slots } : Engine).ActsOnly)
    (hlength : slots.length = e.slots.length) :
    ({ e with slots := slots, scriptName := name } : Engine).prepare =
      (e.prepare.1, e.prepare.2.recounted c name) := by
  have hbad := badReference_aheadAll (c := c) e.slots.length 0 e.clearedSlots
  simp only [Nat.zero_add] at hbad
  have hdesk : ({ e with slots := slots, scriptName := name } : Engine).resetDesk = e.desk :=
    resetDesk_of_actsOnly hacts
  have hcleared : ({ e with slots := slots, scriptName := name } : Engine).clearedSlots =
    aheadAll c e.clearedSlots := hslots
  have htotal : ({ e with slots := slots, scriptName := name } : Engine).slots.length =
    e.slots.length := hlength
  rw [prepare_eq, prepare_eq e, hdesk, resetDesk_of_actsOnly h, htotal, hcleared, hbad]
  rcases badReference e.slots.length 0 e.clearedSlots with _ | ⟨index, s, target⟩
  · rfl
  · exact Prod.ext rfl (modifySlot_recounted { e with slots := e.clearedSlots } index _)

/-! ## Whole runs -/

/-- Actions are still actions when they were made ready. -/
theorem ActsOnly.prepare {e : Engine} (h : e.ActsOnly) : e.prepare.2.ActsOnly := by
  have hcleared : ∀ s ∈ e.clearedSlots, ∃ a, s.work = .action a := by
    intro t ht
    obtain ⟨i, hi⟩ := List.mem_iff_getElem?.mp ht
    rw [getElem?_clearedSlots, Option.map_eq_some_iff] at hi
    obtain ⟨s, hs, rfl⟩ := hi
    exact h s (List.mem_of_getElem? hs)
  rw [e.prepare_eq]
  split
  · exact hcleared
  · next index s target _ =>
    have hbad : ({ e with slots := e.clearedSlots, desk := e.resetDesk } : Engine).ActsOnly :=
      hcleared
    exact hbad.of_moved (moved_modifySlot _ index _)

/-- Engines that are made ready in the same way, up to the earlier visits, come to the same end. -/
theorem ended_recounted {e e' : Engine} (h : e.ActsOnly)
    (hprepare : e'.prepare = (e.prepare.1, e.prepare.2.recounted c name)) :
    e'.ended = (e.ended.1, e.ended.2.recounted c name) := by
  have hacts := h.prepare
  unfold ended
  rw [hprepare]
  generalize e.prepare = p at hacts ⊢
  rcases p with ⟨_ | why, q⟩
  · exact steps_recounted q.maxSteps.toNat 0 true hacts
  · rfl

/-- A run of the same actions goes the same way whatever visits came earlier. -/
theorem run_recounted {e : Engine} (name : String) (h : e.running = false)
    (hready : e.desk.log.ready = .ok ()) {slots fresh : List Slot}
    (hacts : ∀ s ∈ slots, ∃ a, s.work = .action a)
    (hacts' : ∀ s ∈ fresh, ∃ a, s.work = .action a) (hlength : slots.length = fresh.length)
    (hslots : (slots.mapIdx fun i s => s.cleared (i + 1)) =
      aheadAll c (fresh.mapIdx fun i s => s.cleared (i + 1))) :
    ({ e with scriptName := name } : Engine).run (some slots) =
      ((e.run (some fresh)).1, (e.run (some fresh)).2.recounted c name) := by
  have hbegun : ({ e with scriptName := name } : Engine).begun (some slots) =
      { e.begun (some fresh) with slots := slots, scriptName := name } := by
    show Engine.info _ ("=== Script started (" ++ toString slots.length ++ " action(s)) ===") = _
    rw [hlength]
    rfl
  have hended : (({ e with scriptName := name } : Engine).begun (some slots)).ended =
      ((e.begun (some fresh)).ended.1, (e.begun (some fresh)).ended.2.recounted c name) := by
    rw [hbegun]
    exact ended_recounted (e := e.begun (some fresh)) hacts'
      (prepare_recounted (e := e.begun (some fresh)) hacts' hslots hacts hlength)
  rw [run_eq h hready, run_eq (e := { e with scriptName := name }) h hready, hended,
    conclude_recounted]
  rfl

end Engine

end Deskwork
