/-
# The Rounds of a Loop

The end of a loop counts the rounds that it has sent control back for, and only the end itself sets
its count back: when it leaves the loop. Control may leave a loop in another way, by a jump, by a
step that is skipped, or through the end of another loop, and then the count stays. So what is
counted at any visit is the number of rounds since the end last left the loop (`atRound_of_trail`),
and a loop that was left early is not granted all of its rounds when it is entered again
(`run_rounds`).
-/
import Deskwork.Proofs.Run.Bound

namespace Deskwork

open StepM

/-! ## Visits of the end of a loop -/

/-- What the step at an index has counted. -/
def Engine.count? (e : Engine) (k : Nat) : Option Int :=
  ((e.slots[k]?).map Slot.mark).map Prod.snd

namespace Visit

/-- The step at an index was carried out with success. -/
def closes (k : Nat) (v : Visit) : Bool := v.index == k && v.ok

/-- The step at an index was carried out with success and sent control back. -/
def repeats (k : Nat) (v : Visit) : Bool :=
  v.closes k && v.request.any fun r => r.transfer == .loopBack

/-- The rounds of the loop that ends at an index after a visit, when there were `n` before. -/
def tally (k n : Nat) (v : Visit) : Nat :=
  if v.closes k then if v.repeats k then n + 1 else 0 else n

end Visit

/-- The rounds of the loop that ends at an index, in some visits, since its end last left it. -/
def rounds (k : Nat) (vs : List Visit) : Nat := vs.foldl (Visit.tally k) 0

/-- The last visit at which the step at an index was carried out with success. -/
def lastClosing (k : Nat) (vs : List Visit) : Option Visit := vs.reverse.find? (Visit.closes k)

/-- When it was carried out last, the end of the loop sent control back. -/
def Unfinished (k : Nat) (vs : List Visit) : Prop :=
  ∃ v, lastClosing k vs = some v ∧ v.repeats k = true

/-- After some visits, control comes to the start of the loop that ends at an index, and it was not
this end that has sent it there. -/
def Enters (k : Nat) (l : LoopEnd) (front : List Visit) (v : Visit) : Prop :=
  l.start = (v.index + 1 : Nat) ∧ ∀ w, front.getLast? = some w → w.repeats k = false

/-! ## Counting rounds -/

section

variable {k : Nat} {vs mid : List Visit} {v : Visit}

theorem rounds_concat (k : Nat) (vs : List Visit) (v : Visit) :
    rounds k (vs ++ [v]) = v.tally k (rounds k vs) := by
  unfold rounds
  rw [List.foldl_append]
  rfl

theorem lastClosing_concat (k : Nat) (vs : List Visit) (v : Visit) :
    lastClosing k (vs ++ [v]) = if v.closes k then some v else lastClosing k vs := by
  unfold lastClosing
  rw [List.reverse_append, List.reverse_singleton, List.singleton_append, List.find?_cons]
  cases v.closes k <;> rfl

/-- Rounds are counted exactly when the loop is unfinished. -/
theorem rounds_pos_iff (k : Nat) (vs : List Visit) : 0 < rounds k vs ↔ Unfinished k vs := by
  induction vs using List.reverseRecOn with
  | nil => simp [rounds, Unfinished, lastClosing]
  | append_singleton vs v ih =>
    rw [rounds_concat]
    unfold Unfinished Visit.tally at *
    rw [lastClosing_concat]
    cases hc : v.closes k with
    | false => simpa using ih
    | true => cases hr : v.repeats k <;> simp [hr]

/-- As long as the end does not leave the loop, every time that it is carried out is a round more. -/
theorem rounds_append (hmid : ∀ v ∈ mid, v.closes k = true → v.repeats k = true) :
    rounds k (vs ++ mid) = rounds k vs + mid.countP (Visit.closes k) := by
  induction mid using List.reverseRecOn with
  | nil => simp
  | append_singleton mid v ih =>
    have hbefore := ih fun w hw => hmid w (List.mem_append_left _ hw)
    rw [← List.append_assoc, rounds_concat, hbefore, List.countP_append]
    unfold Visit.tally
    cases hc : v.closes k with
    | false => simp [hc]
    | true =>
      have hr := hmid v (by simp) hc
      simp only [hr, if_true, List.countP_singleton, hc]
      omega

end

/-! ## Single visits -/

namespace Visit

variable {v : Visit} {k : Nat} {l : LoopEnd}

/-- A visit of another step changes nothing that is counted. -/
theorem count_settled_of_ne (h : k ≠ v.index) : v.settled.count? k = v.before.count? k := by
  unfold Engine.count?
  rw [mark_settled, mark_after_of_ne h]

/-- What the end of a loop counts at a visit, and when it sends control back. -/
structure Tallies (v : Visit) (l : LoopEnd) (n : Nat) : Prop where
  /-- The rounds are counted. -/
  count : v.settled.count? v.index = some (v.tally v.index n : Int)
  /-- Carried out with success, the end of a loop with a number of times sends control back as long
  as there are fewer rounds than times. -/
  few : l.ending = .maxIterations → v.ok = true →
    (v.repeats v.index = true ↔ (n : Int) + 1 < l.maxIterations)

/-- A visit at which the step did not succeed counts no round. -/
theorem tallies_of_not_ok {n : Nat} (hok : v.ok = false)
    (hcount : v.settled.count? v.index = some (n : Int)) : v.Tallies l n := by
  refine ⟨?_, fun _ h => nomatch hok.symm.trans h⟩
  rw [hcount]
  simp [tally, closes, hok]

/-- The end of a loop tallies its rounds. -/
theorem tallies (hslot : v.before.slots[v.index]? = some v.slot)
    (hwork : v.slot.work = .action (.loopEnd l)) {n : Nat}
    (hcount : v.before.count? v.index = some (n : Int)) : v.Tallies l n := by
  have hold : v.slot.progress.iteration = n := by
    unfold Engine.count? at hcount
    rw [hslot] at hcount
    exact Option.some.inj hcount
  by_cases ha : v.attempted = true
  · rcases comes hwork ha with ⟨hresult, -, hslots⟩ | ⟨a', p, -, hsteering, -, hmarks, hslots⟩
    · refine tallies_of_not_ok (by unfold ok; rw [hresult]) ?_
      unfold Engine.count? at hcount ⊢
      rw [mark_settled, hslots]
      exact hcount
    · -- Expanding its texts has left alone what the end of the loop counts by.
      obtain ⟨left, right, rfl⟩ := Action.eq_loopEnd_of_steering hsteering
      have hsession : (v.session (.action (.loopEnd { l with left := left, right := right }))).progress
          = v.slot.progress := rfl
      have hsettled : v.settled.count? v.index = some p.iteration := by
        unfold Engine.count?
        rw [mark_settled, mark_after_of_slots hslot hslots]
        rfl
      have hrequest := request_of_slots hslot hslots
      have hfailed (hok : v.ok = false) (hp : p.iteration = v.slot.progress.iteration) :
          v.Tallies l n :=
        tallies_of_not_ok hok (by rw [hsettled, hp, hold])
      generalize hresult : v.result = result at hmarks
      cases hmarks with
      | invalid control iteration => exact hfailed (by unfold ok; rw [hresult]) iteration
      | failed control iteration => exact hfailed (by unfold ok; rw [hresult]) iteration
      | lost why control iteration => exact hfailed (by unfold ok; rw [hresult]) iteration
      | passed kind control iteration => exact absurd rfl (kind _)
      | branched b kind r request control iteration => cases kind
      | left l' kind enough control iteration =>
        cases kind
        have hok : v.ok = true := by unfold ok; rw [hresult]
        have hrepeats : v.repeats v.index = false := by
          unfold repeats
          rw [hrequest, control]
          simp
        refine ⟨?_, fun hmax _ => ?_⟩
        · rw [hsettled, iteration]
          simp [tally, closes, hok, hrepeats]
        · have henough := enough hmax
          rw [hsession, hold] at henough
          rw [hrepeats]
          constructor
          · intro h
            cases h
          · intro h
            dsimp only at henough
            omega
      | repeated l' kind stands before ending few control iteration =>
        cases kind
        have hok : v.ok = true := by unfold ok; rw [hresult]
        have hrepeats : v.repeats v.index = true := by
          unfold repeats closes
          rw [hrequest, control, hok]
          simp
        refine ⟨?_, fun hmax _ => ?_⟩
        · rw [hsettled, iteration, hsession, hold]
          simp [tally, closes, hok, hrepeats]
        · have hfew := few hmax
          rw [hsession, hold] at hfew
          exact ⟨fun _ => hfew, fun _ => hrepeats⟩
  · have hnot : v.attempted = false := Bool.eq_false_iff.mpr ha
    refine tallies_of_not_ok (by unfold ok; rw [result_of_not_attempted hnot]) ?_
    unfold Engine.count? at hcount ⊢
    rw [mark_settled, after_of_not_attempted hnot]
    exact hcount

end Visit

/-! ## Runs -/

namespace Engine

/-- The end of a loop stands at an index and has counted some rounds. -/
structure AtRound (e : Engine) (k : Nat) (l : LoopEnd) (n : Nat) : Prop where
  /-- It stands there. -/
  stands : ∃ s, e.slots[k]? = some s ∧ s.work = .action (.loopEnd l)
  /-- What it has counted. -/
  count : e.count? k = some (n : Int)

theorem AtRound.of_slots {e e' : Engine} {k n : Nat} {l : LoopEnd} (h : e.AtRound k l n)
    (hslots : e'.slots = e.slots) : e'.AtRound k l n := by
  obtain ⟨hstands, hcount⟩ := h
  unfold count? at hcount
  exact ⟨hslots ▸ hstands, by unfold count?; rw [hslots]; exact hcount⟩

end Engine

namespace Visit

variable {v : Visit} {k n : Nat} {l : LoopEnd}

/-- What a visit of the end of a loop tallies. -/
theorem tallies_of_atRound (hslot : v.before.slots[v.index]? = some v.slot)
    (h : v.before.AtRound v.index l n) : v.Tallies l n := by
  obtain ⟨⟨s, hs, hwork⟩, hcount⟩ := h
  obtain rfl := Option.some.inj (hs.symm.trans hslot)
  exact tallies hslot hwork hcount

/-- After any visit the end of a loop has tallied its rounds. -/
theorem atRound_settled (hslot : v.before.slots[v.index]? = some v.slot)
    (h : v.before.AtRound k l n) : v.settled.AtRound k l (v.tally k n) := by
  constructor
  · obtain ⟨s, hs, hwork⟩ := h.stands
    have hlt : k < v.settled.slots.length := by
      rw [v.moved_settled.length]
      exact (List.getElem?_eq_some_iff.mp hs).1
    have ht : v.settled.slots[k]? = some v.settled.slots[k] := List.getElem?_eq_getElem hlt
    obtain ⟨s', hs', hlater, -⟩ := v.moved_settled.slots ht
    obtain rfl := Option.some.inj (hs.symm.trans hs')
    exact ⟨_, ht, hlater.work.trans hwork⟩
  · by_cases hk : k = v.index
    · subst hk
      exact (tallies_of_atRound hslot h).count
    · rw [count_settled_of_ne hk, h.count]
      simp [tally, closes, Ne.symm hk]

end Visit

namespace Passage

variable {index : Nat} {success : Bool} {e e' : Engine} {vs front back : List Visit} {v : Visit}
  {ending : Ending} {k n : Nat} {l : LoopEnd}

/-- What the end of a loop has counted at a visit are the rounds among the visits before. -/
theorem atRound_before (h : Passage index success e vs ending e') (he : e.AtRound k l n)
    (hvs : vs = front ++ v :: back) :
    v.before.slots[v.index]? = some v.slot ∧
      v.before.AtRound k l (front.foldl (Visit.tally k) n) := by
  have hreach {index n : Nat} {e : Engine} {v : Visit}
      (h : e.reach index = (some (v.index, v.slot), v.before)) (he : e.AtRound k l n) :
      v.before.slots[v.index]? = some v.slot ∧ v.before.AtRound k l n := by
    obtain ⟨hsame, -, hslot, -⟩ := Engine.slots_of_reach h
    exact ⟨hslot, he.of_slots hsame⟩
  -- The rounds among the visits in front are tallied one visit after the other.
  induction h generalizing front n with
  | finish _ => simp at hvs
  | stop w hw _ =>
    cases front with
    | nil =>
      obtain ⟨rfl, -⟩ := List.cons.inj hvs
      exact hreach hw he
    | cons u front => simp at hvs
  | go w hw _ _ ih =>
    obtain ⟨hslot, hbefore⟩ := hreach hw he
    cases front with
    | nil =>
      obtain ⟨rfl, -⟩ := List.cons.inj hvs
      exact ⟨hslot, hbefore⟩
    | cons u front =>
      obtain ⟨rfl, hrest⟩ := List.cons.inj hvs
      have hlater := ih (Visit.atRound_settled hslot hbefore) hrest
      exact hlater

end Passage

namespace Engine

variable {e : Engine} {k : Nat} {s : Slot} {l : LoopEnd}

/-- An engine that was made ready has counted no rounds. -/
theorem atRound_prepare (hs : e.slots[k]? = some s) (hl : s.work = .action (.loopEnd l))
    (hprepare : e.prepare.1 = none) : e.prepare.2.AtRound k l 0 := by
  have hcleared : e.prepare.2.slots[k]? = some (s.cleared (k + 1)) := by
    rw [slots_prepare hprepare, getElem?_clearedSlots, hs]
    rfl
  refine ⟨⟨_, hcleared, hl⟩, ?_⟩
  unfold count?
  rw [hcleared]
  rfl

/-- At every visit of a run, the end of a loop has counted the rounds since it last left the loop. -/
theorem atRound_of_trail (hs : e.slots[k]? = some s) (hl : s.work = .action (.loopEnd l))
    {front back : List Visit} {v : Visit} (htrail : e.trail = front ++ v :: back) :
    v.before.slots[v.index]? = some v.slot ∧ v.before.AtRound k l (rounds k front) := by
  cases hprepare : e.prepare.1 with
  | some why =>
    rw [(trail_of_problem hprepare).1] at htrail
    simp at htrail
  | none => exact (passage_trail hprepare).atRound_before (atRound_prepare hs hl hprepare) htrail

end Engine

/-- What the end of a loop has counted at a visit of a run is the number of rounds since it last left
the loop. So when control enters the loop, nothing is counted exactly if the loop is not unfinished.
From any visit on, the end sends control back each time that it is carried out with success, until
the rounds counted at the visit and those that follow are as many as its times. -/
theorem run_rounds {e : Engine} {slots : Option (List Slot)} {k : Nat} {s : Slot} {l : LoopEnd}
    (hs : (slots.getD e.slots)[k]? = some s) (hl : s.work = .action (.loopEnd l))
    (hmax : l.ending = .maxIterations) {front back : List Visit} {v : Visit}
    (htrail : (e.begun slots).trail = front ++ v :: back) :
    v.before.count? k = some (rounds k front : Int) ∧
      (Enters k l front v → (v.before.count? k = some 0 ↔ ¬ Unfinished k front)) ∧
      ∀ mid w rest, v :: back = mid ++ w :: rest → w.closes k = true →
        (∀ u ∈ mid, u.closes k = true → u.repeats k = true) →
        (w.repeats k = true ↔
          (rounds k front + mid.countP (Visit.closes k) : Int) + 1 < l.maxIterations) := by
  have hstands : (e.begun slots).slots[k]? = some s := hs
  have hcount := (Engine.atRound_of_trail hstands hl htrail).2.count
  refine ⟨hcount, fun _ => ?_, fun mid w rest hback hw hmid => ?_⟩
  · rw [hcount, ← rounds_pos_iff]
    simp only [Option.some.injEq]
    omega
  · have hsplit : (e.begun slots).trail = (front ++ mid) ++ w :: rest := by
      rw [htrail, hback, List.append_assoc]
    obtain ⟨hslot, hround⟩ := Engine.atRound_of_trail hstands hl hsplit
    obtain ⟨hindex, hok⟩ := Bool.and_eq_true_iff.mp hw
    obtain rfl : w.index = k := by simpa using hindex
    have htallies := Visit.tallies_of_atRound hslot hround
    rw [htallies.few hmax hok, rounds_append hmid]
    push_cast
    rfl

/-- A loop that counts a number up three times, with a step in front of its end that skips the end
when the number is two, and a jump back to the loop behind it. -/
def leftEarly : List Step :=
  [⟨true, false, .assign ⟨"n", "0", .set⟩⟩, ⟨true, false, .loopStart ⟨""⟩⟩,
    ⟨true, false, .assign ⟨"n", "1", .add⟩⟩,
    ⟨true, false, .branch ⟨"%n%", "2", .equal, .skipNext, 1⟩⟩,
    ⟨true, false, .loopEnd ⟨2, .maxIterations, "", "", 3⟩⟩,
    ⟨true, false, .branch ⟨"%n%", "2", .equal, .jump, 2⟩⟩]

/-- An idle engine with the loop that is left early. -/
def leftEarlyEngine : Engine := .new .blank (leftEarly.map .ofStep) false 100 .record

/-- The end of the loop that is left early. -/
def leftEarlyEnd : LoopEnd := ⟨2, .maxIterations, "", "", 3⟩

/-- The loop that was left early counts on from one when it is entered again. -/
theorem run_rounds_leftEarly :
    (leftEarlyEngine.begun none).trail.map Visit.index =
        [0, 1, 2, 3, 4, 1, 2, 3, 5, 1, 2, 3, 4, 1, 2, 3, 4, 5] ∧
      ∃ front v back, (leftEarlyEngine.begun none).trail = front ++ v :: back ∧
        front.length = 9 ∧
        Enters 4 leftEarlyEnd front v ∧ v.before.count? 4 = some 1 ∧ Unfinished 4 front := by
  have hindexes : (leftEarlyEngine.begun none).trail.map Visit.index =
      [0, 1, 2, 3, 4, 1, 2, 3, 5, 1, 2, 3, 4, 1, 2, 3, 4, 5] := by decide +kernel
  have hlength : (leftEarlyEngine.begun none).trail.length = 18 := by
    simpa using congrArg List.length hindexes
  have hnine : 9 < (leftEarlyEngine.begun none).trail.length := by omega
  have htrail : (leftEarlyEngine.begun none).trail =
      (leftEarlyEngine.begun none).trail.take 9 ++
        (leftEarlyEngine.begun none).trail.get ⟨9, hnine⟩ ::
          (leftEarlyEngine.begun none).trail.drop 10 := by
    rw [List.get_eq_getElem, ← List.drop_eq_getElem_cons]
    exact (List.take_append_drop 9 _).symm
  have hslot : (Option.getD none leftEarlyEngine.slots)[4]? =
      some (.ofStep ⟨true, false, .loopEnd leftEarlyEnd⟩) := rfl
  obtain ⟨hcount, henters, -⟩ := run_rounds hslot rfl rfl htrail
  have hrounds : rounds 4 ((leftEarlyEngine.begun none).trail.take 9) = 1 := by decide +kernel
  have hindex : ((leftEarlyEngine.begun none).trail.get ⟨9, hnine⟩).index = 1 := by
    have h := congrArg (·[9]?) hindexes
    simpa [List.getElem?_eq_getElem hnine] using h
  have henter : Enters 4 leftEarlyEnd ((leftEarlyEngine.begun none).trail.take 9)
      ((leftEarlyEngine.begun none).trail.get ⟨9, hnine⟩) := by
    refine ⟨by rw [hindex]; rfl, ?_⟩
    have hlast : ((leftEarlyEngine.begun none).trail.take 9).getLast?.all
        (fun w => !w.repeats 4) = true := by decide +kernel
    intro w hw
    rw [hw] at hlast
    simpa using hlast
  rw [hrounds] at hcount
  refine ⟨hindexes, _, _, _, htrail, by rw [List.length_take]; omega, henter, hcount, ?_⟩
  by_contra hfinished
  have hzero := (henters henter).mpr hfinished
  cases hcount.symm.trans hzero

end Deskwork
