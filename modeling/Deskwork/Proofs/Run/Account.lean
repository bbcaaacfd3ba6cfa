/-
# The Account of a Run

What a run that returned tells about its visits, and its visits about the run: its result, its first
error, the notes of who watches, which steps were reached and in which order (`run_account`).
-/
import Deskwork.Proofs.Run.Whole
import Mathlib.Data.List.Chain

namespace Deskwork

open StepM

/-! ## The steps in order -/

/-- The step at `j` is the first enabled one from an index on. -/
def Engine.FirstEnabled (e : Engine) (index j : Nat) : Prop :=
  index ≤ j ∧ (∃ s, e.slots[j]? = some s ∧ s.enabled = true) ∧
    ∀ i s, index ≤ i → i < j → e.slots[i]? = some s → s.enabled = false

theorem Engine.firstEnabled_of_reach {e e' : Engine} {index j : Nat} {s : Slot}
    (h : e.reach index = (some (j, s), e')) : e.FirstEnabled index j := by
  obtain ⟨-, -, hle, hslot, henabled, hbetween⟩ := reach_some h
  exact ⟨hle, ⟨s, hslot, henabled⟩, hbetween⟩

/-- Making an engine ready does not switch steps on or off. -/
theorem Engine.firstEnabled_of_prepare {e : Engine} (hprepare : e.prepare.1 = none)
    {index j : Nat} (h : e.prepare.2.FirstEnabled index j) : e.FirstEnabled index j := by
  obtain ⟨hle, ⟨s, hs, henabled⟩, hbetween⟩ := h
  rw [slots_prepare hprepare, getElem?_clearedSlots, Option.map_eq_some_iff] at hs
  obtain ⟨t, ht, rfl⟩ := hs
  refine ⟨hle, ⟨t, ht, henabled⟩, fun i u hi hij hu => ?_⟩
  refine hbetween i (u.cleared (i + 1)) hi hij ?_
  rw [slots_prepare hprepare, getElem?_clearedSlots, hu]
  rfl

/-- The indexes of the enabled slots, of which the first stands at `index`. -/
def enabledIndexes (index : Nat) : List Slot → List Nat
  | [] => []
  | s :: rest =>
    if s.enabled then index :: enabledIndexes (index + 1) rest
    else enabledIndexes (index + 1) rest

/-- Only whether slots are enabled matters. -/
theorem enabledIndexes_congr {slots slots' : List Slot}
    (h : slots.map Slot.enabled = slots'.map Slot.enabled) (index : Nat) :
    enabledIndexes index slots = enabledIndexes index slots' := by
  induction slots generalizing slots' index with
  | nil =>
    rw [List.map_nil, eq_comm, List.map_eq_nil_iff] at h
    rw [h]
  | cons s rest ih =>
    obtain ⟨s', rest', rfl, hs, hrest⟩ := List.map_eq_cons_iff.mp h.symm
    rw [enabledIndexes, enabledIndexes, hs, ih hrest.symm]

/-- Disabled slots at the front do not count. -/
theorem enabledIndexes_append {front : List Slot} (h : ∀ s ∈ front, s.enabled = false)
    (index : Nat) (back : List Slot) :
    enabledIndexes index (front ++ back) = enabledIndexes (index + front.length) back := by
  induction front generalizing index with
  | nil => rfl
  | cons s front ih =>
    rw [List.cons_append, enabledIndexes, h s List.mem_cons_self,
      ih (fun t ht => h t (List.mem_cons_of_mem s ht)), List.length_cons, Nat.add_right_comm,
      Nat.add_assoc]
    rfl

/-- The first enabled step from an index on comes first among the enabled indexes. -/
theorem enabledIndexes_of_firstEnabled {e : Engine} {index j : Nat} (h : e.FirstEnabled index j) :
    enabledIndexes index (e.slots.drop index) =
      j :: enabledIndexes (j + 1) (e.slots.drop (j + 1)) := by
  obtain ⟨hle, ⟨s, hs, henabled⟩, hbetween⟩ := h
  obtain ⟨k, rfl⟩ := Nat.exists_eq_add_of_le hle
  obtain ⟨hlt, hget⟩ := List.getElem?_eq_some_iff.mp hs
  have hsplit : e.slots.drop index =
      (e.slots.drop index).take k ++ e.slots.drop (index + k) := by
    rw [← List.drop_drop, List.take_append_drop]
  have hfront : ∀ t ∈ (e.slots.drop index).take k, t.enabled = false := by
    intro t ht
    obtain ⟨i, hi, rfl⟩ := List.mem_iff_getElem.mp ht
    rw [List.length_take] at hi
    refine hbetween (index + i) _ (Nat.le_add_right _ _) (by omega) ?_
    rw [List.getElem_take, List.getElem_drop, List.getElem?_eq_getElem]
  have hlength : ((e.slots.drop index).take k).length = k := by
    rw [List.length_take, List.length_drop]
    omega
  rw [hsplit, enabledIndexes_append hfront, hlength, List.drop_eq_getElem_cons hlt, hget,
    enabledIndexes, henabled]
  rfl

theorem enabledIndexes_of_none {e e' : Engine} {index : Nat} (h : e.reach index = (none, e')) :
    enabledIndexes index (e.slots.drop index) = [] := by
  obtain ⟨-, hdisabled⟩ := Engine.reach_none h
  have hall : ∀ s ∈ e.slots.drop index, s.enabled = false := by
    intro s hs
    obtain ⟨i, hi, rfl⟩ := List.mem_iff_getElem.mp hs
    rw [List.length_drop] at hi
    refine hdisabled (index + i) _ (Nat.le_add_right _ _) ?_
    rw [List.getElem_drop, List.getElem?_eq_getElem]
  have h := enabledIndexes_append hall index []
  rw [List.append_nil] at h
  exact h

/-! ## Visits one after the other -/

namespace Visit

/-- The run cannot go on after the visit: control was lost, or the step failed and does not allow to
go on. -/
def Stops (v : Visit) : Prop :=
  v.fault ≠ none ∨ v.ok = false ∧ v.slot.continueOnError = false

/-- The step requests nothing but to proceed. -/
def Proceeds (v : Visit) : Prop :=
  v.request = none ∨ ∃ target, v.request = some ⟨.next, target⟩

/-- Where the run goes on after a visit, and why. After a step that succeeded it follows the request
of the step; after a step that failed it goes on with the next step, whatever the step requested. -/
def Precedes (v w : Visit) : Prop :=
  v.settled.Idles w.before ∧
    match v.ok with
    | true => ∃ next, course v.after.slots.length v.index v.request = .on next ∧
        v.settled.FirstEnabled next w.index
    | false => v.slot.continueOnError = true ∧ v.settled.FirstEnabled (v.index + 1) w.index

theorem not_stops_of_landing {v : Visit} {next : Nat} (h : v.landing = some next) : ¬ v.Stops := by
  obtain ⟨-, hfault, hcontinue⟩ := of_landing h
  rintro (hf | ⟨hok, hc⟩)
  · exact hf hfault
  · rw [hcontinue hok] at hc
    cases hc

/-- The step was not executed: it failed, and at most an error was logged in its session. -/
def Unexecuted (v : Visit) (work : Work) : Prop :=
  v.ok = false ∧ ∃ s, v.after = v.readied.2.absorb v.index s ∧
    (s = v.session work ∨ ∃ message, s = erred (v.session work) message)

/-- A step whose check finds a fault is not executed. -/
theorem unexecuted_of_check {v : Visit} (h : v.attempted = true) {work : Work} {f : Fault}
    (hwork : v.readied.1 = .ok work) (hcheck : work.check v.slot.progress.visits = .error f) :
    v.Unexecuted work := by
  obtain ⟨hfails, hsession⟩ := guarded_of_check (s := v.session work) hcheck
  have houtcome := v.outcome_eq h
  simp only [hwork] at houtcome
  unfold Unexecuted ok result after
  rw [houtcome]
  refine ⟨?_, _, rfl, hsession⟩
  dsimp only
  rcases hr : (runIn (v.session work) (Engine.guarded work)).1 with f | _ | _
  · rfl
  · rfl
  · exact absurd hr hfails

/-- The next visit is where the run goes on. -/
theorem precedes_of_landing {v w : Visit} {next : Nat} (h : v.landing = some next)
    (hw : v.settled.reach next = (some (w.index, w.slot), w.before)) : v.Precedes w := by
  refine ⟨(Engine.reach_some hw).1, ?_⟩
  have hfirst := Engine.firstEnabled_of_reach hw
  unfold landing at h
  unfold ok
  rcases hr : v.result with f | _ | _
  · rw [hr] at h
    cases h
  · rw [hr] at h
    dsimp only at h ⊢
    split at h
    · next hc =>
      obtain rfl : v.index + 1 = next := Option.some.inj h
      exact ⟨hc, hfirst⟩
    · cases h
  · rw [hr] at h
    dsimp only at h ⊢
    split at h
    · next on hcourse =>
      obtain rfl : on = next := Option.some.inj h
      exact ⟨on, hcourse, hfirst⟩
    · cases h

/-- A step that requests no transfer hands over to the next one, unless the run cannot go on. -/
theorem landing_of_proceeds {v : Visit} (h : v.ok = true → v.Proceeds) :
    v.landing = some (v.index + 1) ∨ v.landing = none ∧ v.Stops := by
  unfold landing Stops fault
  unfold ok at h
  unfold ok
  rcases hr : v.result with f | _ | _
  · right
    simp
  · dsimp only
    cases v.slot.continueOnError
    · right
      simp
    · left
      simp
  · left
    rw [hr] at h
    have hcourse : course v.after.slots.length v.index v.request = .on (v.index + 1) := by
      rcases h rfl with h | ⟨target, h⟩
      · rw [h]
        rfl
      · rw [h]
        rfl
    dsimp only
    rw [hcourse]

end Visit

namespace Passage

variable {index : Nat} {success : Bool} {e e' : Engine} {vs : List Visit} {ending : Ending}

theorem firstEnabled_head (h : Passage index success e vs ending e') :
    ∀ v ∈ vs.head?, e.FirstEnabled index v.index := by
  cases h with
  | finish _ => simp
  | stop v h _ => simpa using Engine.firstEnabled_of_reach h
  | go v h _ _ => simpa using Engine.firstEnabled_of_reach h

/-- Every visit is followed by the next one. -/
theorem isChain (h : Passage index success e vs ending e') : vs.IsChain Visit.Precedes := by
  induction h with
  | finish _ => exact .nil
  | stop v _ _ => exact .singleton v
  | @go _ _ _ _ ws _ _ v _ hl hrest ih =>
    cases hrest with
    | finish _ => exact .singleton v
    | stop w hw _ => exact .cons_cons (Visit.precedes_of_landing hl hw) ih
    | go w hw _ _ => exact .cons_cons (Visit.precedes_of_landing hl hw) ih

/-- A visit after which the run cannot go on is the last one. -/
theorem last_of_stops (h : Passage index success e vs ending e') {front back : List Visit}
    {v : Visit} (hvs : vs = front ++ v :: back) (hv : v.Stops) : back = [] := by
  induction h generalizing front with
  | finish _ => simp at hvs
  | stop w _ _ =>
    rcases front with _ | ⟨u, front⟩
    · exact (List.cons.inj hvs).2.symm
    · simp at hvs
  | go w _ hl _ ih =>
    rcases front with _ | ⟨u, front⟩
    · -- The run landed somewhere after this visit, so it did not stop there.
      obtain ⟨rfl, -⟩ := List.cons.inj hvs
      exact absurd hv (Visit.not_stops_of_landing hl)
    · exact ih (List.cons.inj hvs).2

/-- Without transfers the run reaches the enabled steps in order; those that are left over come
after a visit after which the run cannot go on. -/
theorem straight (h : Passage index success e vs ending e')
    (hproceeds : ∀ v ∈ vs, v.ok = true → v.Proceeds)
    (hsame : ∀ v ∈ vs, v.settled.slots.map Slot.enabled = v.before.slots.map Slot.enabled) :
    ∃ rest, enabledIndexes index (e.slots.drop index) = vs.map Visit.index ++ rest ∧
      (rest = [] ∨ ∃ v, vs.getLast? = some v ∧ v.Stops) := by
  induction h with
  | finish h => exact ⟨[], by rw [enabledIndexes_of_none h]; rfl, .inl rfl⟩
  | stop v h hl =>
    refine ⟨_, enabledIndexes_of_firstEnabled (Engine.firstEnabled_of_reach h), .inr ⟨v, rfl, ?_⟩⟩
    rcases Visit.landing_of_proceeds (hproceeds v (by simp)) with hn | ⟨-, hstops⟩
    · rw [hl] at hn
      cases hn
    · exact hstops
  | @go index _ e next ws _ _ v h hl hrest ih =>
    rcases Visit.landing_of_proceeds (hproceeds v (by simp)) with hn | ⟨hn, -⟩
    · -- The next enabled step is sought in slots that are enabled as they were at the beginning.
      rw [hl] at hn
      obtain rfl : next = v.index + 1 := Option.some.inj hn
      obtain ⟨rest, hrest, hlast⟩ := ih (fun w hw => hproceeds w (List.mem_cons_of_mem v hw))
        fun w hw => hsame w (List.mem_cons_of_mem v hw)
      have henabled : e.slots.map Slot.enabled = v.settled.slots.map Slot.enabled := by
        obtain ⟨⟨d, current, hbefore, -⟩, -⟩ := Engine.reach_some h
        rw [hsame v (by simp), hbefore]
      refine ⟨rest, ?_, ?_⟩
      · rw [enabledIndexes_of_firstEnabled (Engine.firstEnabled_of_reach h), List.map_cons,
          List.cons_append, ← hrest]
        congr 1
        refine enabledIndexes_congr ?_ _
        rw [List.map_drop, List.map_drop, henabled]
      · refine hlast.imp id fun ⟨w, hw, hstops⟩ => ⟨w, ?_, hstops⟩
        cases ws with
        | nil => cases hw
        | cons u ws => rwa [List.getLast?_cons_cons]
    · rw [hl] at hn
      cases hn

end Passage

/-! ## The account -/

/-- What the visits `vs` of a run that began with the engine `start`, returned `ok` and left the
engine `e` tell about the run. -/
structure Account (start : Engine) (vs : List Visit) (ok : Bool) (e : Engine) : Prop where
  /-- Who watches takes a note of every visit in order, and a last one of the end. -/
  notices : e.desk.notices = start.desk.notices ++
    start.notes (vs.map Visit.notice ++ [start.ended.2.completion ok])
  /-- The run succeeds exactly when control was not lost and no step failed. -/
  success : ok = true ↔ start.lostControl = none ∧ ∀ v ∈ vs, v.ok = true
  /-- There is a first error exactly when the run fails. -/
  unblemished : e.firstError = none ↔ ok = true
  /-- The first error is the summary of the first failure, or else how control was lost. -/
  firstError : e.firstError = ((vs.find? fun v => !v.ok).map Visit.summary).or
    (start.lostControl.map Fault.message)
  /-- Losing control, or failing without leave to go on, ends the run. -/
  last : ∀ front v back, vs = front ++ v :: back → v.Stops → back = []
  /-- A step is attempted unless the number of steps is exceeded. -/
  attempted : ∀ (k : Nat) v, vs[k]? = some v → (v.attempted = true ↔ (k : Int) < start.maxSteps)
  /-- Only enabled steps are reached. -/
  enabled : ∀ v ∈ vs, v.before.slots[v.index]? = some v.slot ∧ v.slot.enabled = true
  /-- A step that is disabled at the beginning is never reached. -/
  disabled : ∀ i s, start.slots[i]? = some s → s.enabled = false → i ∉ vs.map Visit.index
  /-- A step that is not reached makes no progress. -/
  untouched : ∀ i, i ∉ vs.map Visit.index →
    (e.slots[i]?).map Slot.progress = (start.prepare.2.slots[i]?).map Slot.progress
  /-- A step whose check finds a fault is not executed. -/
  unexecuted : ∀ v ∈ vs, v.attempted = true → ∀ work f, v.readied.1 = .ok work →
    work.check v.slot.progress.visits = .error f → v.Unexecuted work
  /-- The first enabled step comes first. -/
  head : ∀ v ∈ vs.head?, start.FirstEnabled 0 v.index
  /-- Requests of steps that succeeded are followed, and no others. -/
  follows : vs.IsChain Visit.Precedes
  /-- Without transfers the enabled steps are reached in order, up to a step that ends the run. -/
  straight : start.prepare.1 = none → (∀ v ∈ vs, v.ok = true → v.Proceeds) →
    (∀ v ∈ vs, v.settled.slots.map Slot.enabled = v.before.slots.map Slot.enabled) →
    ∃ rest, enabledIndexes 0 start.slots = vs.map Visit.index ++ rest ∧
      (rest = [] ∨ ∃ v, vs.getLast? = some v ∧ v.Stops)

/-- Every run of an idle engine that returns is accounted for by the visits of its trail. -/
theorem run_account {e e' : Engine} {slots : Option (List Slot)} {ok : Bool}
    (h : e.running = false) (hrun : e.run slots = (.ok ok, e')) :
    Account (e.begun slots) (e.begun slots).trail ok e' := by
  have hreturned := Engine.run_returned h hrun
  generalize e.begun slots = start at hreturned ⊢
  have hfirst : e'.firstError = none ↔ ok = true := by
    rw [hreturned.firstError, hreturned.success]
    simp [and_comm]
  cases hprepare : start.prepare.1 with
  | some why =>
    obtain ⟨htrail, hended⟩ := Engine.trail_of_problem hprepare
    refine ⟨hreturned.gains.notices, hreturned.success, hfirst, hreturned.firstError, ?_, ?_, ?_,
      ?_, ?_, ?_, ?_, ?_, ?_⟩
    all_goals simp [htrail, hreturned.slots, hended, hprepare]
  | none =>
    have hpassage := Engine.passage_trail hprepare
    have hslots := Engine.slots_prepare hprepare
    have henabled : start.prepare.2.slots.map Slot.enabled = start.slots.map Slot.enabled := by
      refine List.ext_getElem? fun i => ?_
      rw [hslots, List.getElem?_map, List.getElem?_map, Engine.getElem?_clearedSlots,
        Option.map_map]
      rfl
    exact
      { notices := hreturned.gains.notices
        success := hreturned.success
        unblemished := hfirst
        firstError := hreturned.firstError
        last := fun front v back hvs hv => hpassage.last_of_stops hvs hv
        attempted := fun k v hv => Engine.attempted_trail hv
        enabled := fun v hv => ⟨(hpassage.visited v hv).1, (hpassage.visited v hv).2.1⟩
        disabled := by
          intro i s hs hdisabled hi
          obtain ⟨v, hv, rfl⟩ := List.mem_map.mp hi
          obtain ⟨-, hon, t, ht, hlater⟩ := hpassage.visited v hv
          rw [hslots, Engine.getElem?_clearedSlots, hs] at ht
          obtain rfl := Option.some.inj ht
          rw [show s.enabled = true from hlater.enabled hon] at hdisabled
          cases hdisabled
        untouched := fun i hi => by
          rw [hreturned.slots]
          exact hpassage.moved.progress_eq hi
        unexecuted := fun v _ ha work f hwork hcheck => Visit.unexecuted_of_check ha hwork hcheck
        head := fun v hv =>
          Engine.firstEnabled_of_prepare hprepare (hpassage.firstEnabled_head v hv)
        follows := hpassage.isChain
        straight := by
          intro _ hproceeds hsame
          have h := hpassage.straight hproceeds hsame
          rwa [List.drop_zero, enabledIndexes_congr henabled] at h }

/-- An engine with a step that has an invalid field but allows to go on, a disabled step, and a step
that succeeds. -/
def sampleEngine : Engine :=
  .new .blank [.ofStep ⟨true, true, .assign ⟨"", "1", .set⟩⟩,
    .ofStep ⟨false, false, .loopStart ⟨""⟩⟩, .ofStep ⟨true, false, .loopStart ⟨""⟩⟩]
    false 10 .record

/-- A run that fails and still reaches its last step. -/
theorem run_account_sample :
    sampleEngine.running = false ∧ (sampleEngine.run none).1 = .ok false ∧
      Account (sampleEngine.begun none) (sampleEngine.begun none).trail false
        (sampleEngine.run none).2 :=
  ⟨rfl, rfl, run_account rfl (Prod.ext rfl rfl)⟩

example : (sampleEngine.begun none).trail.map Visit.index = [0, 2] := rfl

end Deskwork
