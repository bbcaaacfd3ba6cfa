/-
# Loops That Are Counted

A script without branches, whose loops are left at once or after some repetitions, needs no limit of
steps: its length and the numbers of repetitions bound the number of its visits (`run_bounded`). The
loops may be nested, overlap, or share their starts. The end of a loop that control has passed counts
from zero again, so the counts alone do not show that the run gets on; but going back past an end
costs less than one more repetition of it is worth (`due_repeat`), because every step is worth more
than all the steps before it together.
-/
import Deskwork.Proofs.Run.Limit
import Mathlib.Algebra.BigOperators.Intervals
import Mathlib.Algebra.Order.BigOperators.Ring.Finset
import Mathlib.Tactic.Ring

namespace Deskwork

open Finset

/-! ## Visits that are due -/

section

variable (t : Nat → Nat)

/-- The most visits that it takes to get past the first `k` steps, when the step at an index `j` is
visited at most `t j` times for each time that control gets to it from before. -/
def most : Nat → Nat
  | 0 => 0
  | k + 1 => t k * (most k + 1)

/-- The visits that are due to the step at an index that has sent control back `c` times: its own,
and for each time that it may still do so, another one and those of all steps before it. -/
def dueAt (j c : Nat) : Nat := 1 + (t j - 1 - c) * (most t j + 1)

/-- The visits that are due to the steps from an index on. -/
def due (c : Nat → Nat) (i n : Nat) : Nat := ∑ j ∈ Ico i n, dueAt t j (c j)

variable {t} {c c' : Nat → Nat} {i k n : Nat}

/-- The visits due to the first steps are no more than it takes to get past them. -/
theorem sum_dueAt_le (ht : ∀ j, 1 ≤ t j) (c : Nat → Nat) (k : Nat) :
    ∑ j ∈ range k, dueAt t j (c j) ≤ most t k := by
  induction k with
  | zero => exact Nat.le_refl 0
  | succ k ih =>
    obtain ⟨a, ha⟩ : ∃ a, t k = a + 1 := ⟨t k - 1, by have := ht k; omega⟩
    have hdue : dueAt t k (c k) ≤ 1 + a * (most t k + 1) := by
      unfold dueAt
      rw [ha]
      have hle : a + 1 - 1 - c k ≤ a := by omega
      exact Nat.add_le_add_left (Nat.mul_le_mul_right _ hle) 1
    have hmost : most t (k + 1) = a * (most t k + 1) + (most t k + 1) := by
      rw [most, ha]
      ring
    rw [sum_range_succ, hmost]
    omega

theorem due_le_most (ht : ∀ j, 1 ≤ t j) (c : Nat → Nat) (i n : Nat) : due t c i n ≤ most t n := by
  refine le_trans ?_ (sum_dueAt_le ht c n)
  refine sum_le_sum_of_subset ?_
  intro j hj
  exact mem_range.mpr (mem_Ico.mp hj).2

/-- Among the visits that are due from a step on is its own. -/
theorem due_eq_add (h : i < n) : due t c i n = dueAt t i (c i) + due t c (i + 1) n :=
  sum_eq_sum_Ico_succ_bot h _

theorem due_congr (h : ∀ j, i ≤ j → c' j = c j) : due t c' i n = due t c i n := by
  refine sum_congr rfl fun j hj => ?_
  rw [h j (mem_Ico.mp hj).1]

/-- Further on, no more visits are due. -/
theorem due_mono (h : i ≤ k) : due t c k n ≤ due t c i n :=
  sum_le_sum_of_subset (Ico_subset_Ico_left h)

/-- To go on after a visit makes use of a visit that was due. -/
theorem due_advance (h : i < n) (hc : ∀ j, j ≠ i → c' j = c j) :
    due t c' (i + 1) n + 1 ≤ due t c i n := by
  have hrest : due t c' (i + 1) n = due t c (i + 1) n := due_congr fun j hj => hc j (by omega)
  have hown : 1 ≤ dueAt t i (c i) := Nat.le_add_right 1 _
  rw [due_eq_add h, hrest]
  omega

/-- To go back from a step to one before it, or to itself, makes use of a visit that was due, too: one
repetition less is due to it, which is worth more than all the visits before it. -/
theorem due_repeat (ht : ∀ j, 1 ≤ t j) (hk : k ≤ i) (hi : i < n) (hcount : c' i = c i + 1)
    (hfew : c i + 1 < t i) (hc : ∀ j, j ≠ i → c' j = c j) :
    due t c' k n + 1 ≤ due t c i n := by
  have hback : due t c' k n = due t c' k i + due t c' i n :=
    (sum_Ico_consecutive _ hk (Nat.le_of_lt hi)).symm
  have hbefore : due t c' k i ≤ most t i := due_le_most ht c' k i
  have hrest : due t c' (i + 1) n = due t c (i + 1) n := due_congr fun j hj => hc j (by omega)
  have hown : dueAt t i (c' i) + (most t i + 1) = dueAt t i (c i) := by
    unfold dueAt
    rw [hcount]
    obtain ⟨a, ha⟩ : ∃ a, t i - 1 - c i = a + 1 := ⟨t i - 1 - c i - 1, by omega⟩
    have ha' : t i - 1 - (c i + 1) = a := by omega
    rw [ha, ha']
    ring
  rw [hback, due_eq_add hi, due_eq_add hi, hrest]
  omega

/-- The number of steps times all numbers of repetitions is enough to get past all steps. -/
theorem most_le (ht : ∀ j, 1 ≤ t j) (n : Nat) : most t n ≤ n * ∏ j ∈ range n, t j := by
  induction n with
  | zero => exact Nat.le_refl 0
  | succ n ih =>
    have hone : 1 ≤ ∏ j ∈ range n, t j := Nat.succ_le_of_lt (prod_pos fun j _ => ht j)
    calc most t (n + 1) = t n * (most t n + 1) := rfl
      _ ≤ t n * (n * ∏ j ∈ range n, t j + ∏ j ∈ range n, t j) :=
        Nat.mul_le_mul_left _ (Nat.add_le_add ih hone)
      _ = (n + 1) * ∏ j ∈ range (n + 1), t j := by
        rw [prod_range_succ]
        ring

end

/-! ## The bound -/

namespace Slot

/-- The number of repetitions that a slot allows, when a loop ends there. -/
def limit? (s : Slot) : Option Int :=
  match s.work with
  | .action (.loopEnd l) => some l.maxIterations
  | _ => none

/-- A step is an action; when it is enabled it is no branch, and it ends no loop but one that is left
at once or after some repetitions. -/
def Counted (s : Slot) : Prop :=
  ∃ a, s.work = .action a ∧ (s.enabled = true → (∀ b, a ≠ .branch b) ∧
    ∀ l, a = .loopEnd l → l.ending = .maxIterations ∨ l.ending = .always)

end Slot

/-- How often control comes to the end of a loop with a number of repetitions, for each time that it
gets there from before: at least once. -/
def around (limit : Int) : Nat := max 1 limit.toNat

/-- A number of steps that is enough for a script of some length with some numbers of repetitions. -/
def stepBound (length : Nat) (limits : List Int) : Nat := length * (limits.map around).prod

/-- How often control comes to the step at an index, for each time that it gets there from before. -/
def timesAt (slots : List Slot) (j : Nat) : Nat :=
  (((slots[j]?).bind Slot.limit?).map around).getD 1

theorem one_le_timesAt (slots : List Slot) (j : Nat) : 1 ≤ timesAt slots j := by
  unfold timesAt
  cases (slots[j]?).bind Slot.limit? with
  | none => exact Nat.le_refl 1
  | some limit => exact Nat.le_max_left 1 _

theorem prod_timesAt (slots : List Slot) :
    ∏ j ∈ range slots.length, timesAt slots j =
      ((slots.filterMap Slot.limit?).map around).prod := by
  induction slots with
  | nil => rfl
  | cons s rest ih =>
    have hrest : ∀ j, timesAt (s :: rest) (j + 1) = timesAt rest j := fun j => rfl
    have hfirst : timesAt (s :: rest) 0 = (s.limit?.map around).getD 1 := rfl
    rw [List.length_cons, prod_range_succ', prod_congr rfl fun j _ => hrest j, ih, hfirst]
    cases hlimit : s.limit? with
    | none =>
      rw [List.filterMap_cons_none hlimit]
      exact Nat.mul_one _
    | some limit =>
      rw [List.filterMap_cons_some hlimit, List.map_cons, List.prod_cons]
      exact Nat.mul_comm _ _

/-- The bound is enough to get past all steps. -/
theorem most_le_stepBound (slots : List Slot) :
    most (timesAt slots) slots.length ≤ stepBound slots.length (slots.filterMap Slot.limit?) := by
  unfold stepBound
  rw [← prod_timesAt]
  exact most_le (one_le_timesAt slots) slots.length

/-! ## Visits -/

namespace Engine

/-- How often the step at an index has sent control back. -/
def countAt (e : Engine) (i : Nat) : Nat :=
  (((e.slots[i]?).map Slot.mark).map fun m => m.2.toNat).getD 0

/-- The engine carries out steps that were authored like the given ones and are counted, and no count
is negative. -/
structure Counting (slots : List Slot) (e : Engine) : Prop where
  /-- The steps are authored like the given ones. -/
  same : e.slots.map Slot.asNew = slots.map Slot.asNew
  /-- They are counted. -/
  counted : ∀ s ∈ slots, s.Counted
  /-- Their counts are not negative. -/
  counts : ∀ (i : Nat) m, (e.slots[i]?).map Slot.mark = some m → 0 ≤ m.2

variable {slots : List Slot} {e : Engine}

/-- Its counts depend on its slots only. -/
theorem Counting.of_slots {e' : Engine} (h : e.Counting slots) (hslots : e'.slots = e.slots) :
    e'.Counting slots :=
  ⟨hslots ▸ h.same, h.counted, hslots ▸ h.counts⟩

end Engine

namespace Visit

variable {v : Visit} {slots : List Slot} {next : Nat}

/-- Where the run goes on after the visit of a counted step: at the next index, or at most as far as
the step, which then has counted one repetition more, and still one fewer than there are times. -/
inductive Goes (t : Nat → Nat) (v : Visit) (next : Nat) : Prop where
  /-- On. -/
  | on (next : next = v.index + 1)
  /-- Back. -/
  | back (next : next ≤ v.index) (count : v.settled.countAt v.index = v.before.countAt v.index + 1)
      (few : v.before.countAt v.index + 1 < t v.index)

/-- Settling a visit leaves the mark of every step alone. -/
theorem mark_settled (v : Visit) (i : Nat) :
    (v.settled.slots[i]?).map Slot.mark = (v.after.slots[i]?).map Slot.mark := by
  have hmark := congrArg (·[i]?) v.map_mark_settled
  simpa only [List.getElem?_map] using hmark

/-- A visit changes the count of its own step only. -/
theorem countAt_settled_of_ne {i : Nat} (h : i ≠ v.index) :
    v.settled.countAt i = v.before.countAt i := by
  unfold Engine.countAt
  rw [mark_settled, mark_after_of_ne h]

/-- Where the run goes on after an attempt that failed or requested nothing. -/
theorem next_of_landing (hl : v.landing = some next)
    (h : v.result = .ok true → v.request = none) : next = v.index + 1 := by
  unfold landing at hl
  rcases hresult : v.result with f | _ | _
  · rw [hresult] at hl
    cases hl
  · rw [hresult] at hl
    dsimp only at hl
    split at hl
    · exact (Option.some.inj hl).symm
    · cases hl
  · rw [hresult] at hl
    dsimp only at hl
    rw [h hresult] at hl
    exact (Option.some.inj hl).symm

/-- Where the run goes on after an attempt that sent control back. -/
theorem next_of_loopBack {start : Int} (hl : v.landing = some next)
    (hrequest : v.request = some ⟨.loopBack, start⟩) (hresult : v.result = .ok true) :
    1 ≤ start ∧ next = start.toNat - 1 := by
  unfold landing at hl
  rw [hresult, hrequest] at hl
  simp only [course] at hl
  cases hout : Engine.outside v.after.slots.length start with
  | true => simp [hout] at hl
  | false =>
    obtain ⟨hlow, -⟩ := Engine.outside_eq_false_iff.mp hout
    simp only [hout, Bool.false_eq_true, if_false, Option.some.injEq] at hl
    exact ⟨hlow, hl.symm⟩

/-- When a counted step was attempted and its own count is not negative, no count is. -/
theorem counts_settled {a : Action} {p : Progress} (hcounts : v.before.Counting slots)
    (hslot : v.before.slots[v.index]? = some v.slot) (haction : v.slot.work = .action a)
    (hafter : v.after.slots = v.before.slots.modify v.index fun s =>
      { s with progress := { p with visits := p.visits + 1 } }) (hp : 0 ≤ p.iteration) :
    v.settled.Counting slots := by
  refine ⟨(map_asNew_settled haction).trans hcounts.same, hcounts.counted, ?_⟩
  intro i m hm
  rw [mark_settled] at hm
  by_cases hi : i = v.index
  · rw [hi, mark_after_of_slots hslot hafter] at hm
    obtain rfl := Option.some.inj hm
    exact hp
  · rw [mark_after_of_ne hi] at hm
    exact hcounts.counts i m hm

/-- Where the run goes on after the end of a loop sent control back. -/
theorem goes_of_repeated {a : Action} {l : LoopEnd} {p : Progress} (hcounts : v.before.Counting slots)
    (hslot : v.before.slots[v.index]? = some v.slot) (hwork : v.slot.work = .action (.loopEnd l))
    (hnonneg : 0 ≤ v.slot.progress.iteration)
    (hafter : v.after.slots = v.before.slots.modify v.index fun s =>
      { s with progress := { p with visits := p.visits + 1 } })
    (hbefore : (v.session (.action a)).position = 0 ∨ l.start < (v.session (.action a)).position)
    (hfew : v.slot.progress.iteration + 1 < l.maxIterations)
    (hcontrol : p.control = some ⟨.loopBack, l.start⟩)
    (hiteration : p.iteration = v.slot.progress.iteration + 1) (hresult : v.result = .ok true)
    (hl : v.landing = some next) : v.Goes (timesAt slots) next := by
  obtain ⟨s, hs, hsame, -⟩ := exists_of_map_asNew hcounts.same hslot
  have hlimit : timesAt slots v.index = max 1 l.maxIterations.toNat := by
    unfold timesAt Slot.limit?
    rw [hs]
    dsimp only [Option.bind]
    rw [← hsame, hwork]
    rfl
  have hold : v.before.countAt v.index = v.slot.progress.iteration.toNat := by
    unfold Engine.countAt
    rw [hslot]
    rfl
  have hnew : v.settled.countAt v.index = p.iteration.toNat := by
    unfold Engine.countAt
    rw [mark_settled, mark_after_of_slots hslot hafter]
    rfl
  -- The start stands before the end, so the run goes on at most as far as the end itself.
  have hposition : (v.session (.action a)).position = (v.index + 1 : Nat) := rfl
  rw [hposition] at hbefore
  obtain ⟨hlow, hnext⟩ :=
    next_of_loopBack hl ((request_of_slots hslot hafter).trans hcontrol) hresult
  refine .back ?_ ?_ ?_
  · omega
  · rw [hnew, hold, hiteration]
    omega
  · rw [hold, hlimit]
    omega

/-- Where the run goes on after the visit of a counted step, and what is counted then. -/
theorem goes_of_landing (hcounts : v.before.Counting slots)
    (hslot : v.before.slots[v.index]? = some v.slot) (hon : v.slot.enabled = true)
    (hl : v.landing = some next) : v.Goes (timesAt slots) next ∧ v.settled.Counting slots := by
  obtain ⟨s, hs, hwork, henabled⟩ := exists_of_map_asNew hcounts.same hslot
  obtain ⟨a, hsa, hkinds⟩ := hcounts.counted s (List.mem_of_getElem? hs)
  obtain ⟨hbranch, hending⟩ := hkinds (henabled.symm.trans hon)
  have haction : v.slot.work = .action a := hwork.trans hsa
  have hnonneg : 0 ≤ v.slot.progress.iteration := by
    refine hcounts.counts v.index v.slot.mark ?_
    rw [hslot]
    rfl
  have hlost {f : Fault} (hresult : v.result = .error f) : False := by
    unfold landing at hl
    rw [hresult] at hl
    cases hl
  have ha : v.attempted = true := by
    by_contra hnot
    exact hlost (result_of_not_attempted (Bool.eq_false_iff.mpr hnot))
  rcases comes haction ha with ⟨hresult, -, -⟩ | ⟨a', p, -, hsteering, -, hmarks, hafter⟩
  · exact absurd hresult hlost
  · have hkeep (hp : 0 ≤ p.iteration) : v.settled.Counting slots :=
      counts_settled hcounts hslot haction hafter hp
    have honward (hrequest : v.result = .ok true → p.control = none) (hp : 0 ≤ p.iteration) :
        v.Goes (timesAt slots) next ∧ v.settled.Counting slots :=
      ⟨.on (next_of_landing hl fun hok => (request_of_slots hslot hafter).trans (hrequest hok)),
        hkeep hp⟩
    have hsession : (v.session (.action a')).progress = v.slot.progress := rfl
    generalize hresult : v.result = result at hmarks honward
    cases hmarks with
    | invalid control iteration =>
      exact honward (fun hok => nomatch hok) (iteration ▸ hnonneg)
    | failed control iteration => exact honward (fun _ => control) (iteration ▸ hnonneg)
    | lost why control iteration => exact absurd hresult hlost
    | passed kind control iteration => exact honward (fun _ => control) (iteration ▸ hnonneg)
    | branched b kind r request control iteration =>
      rw [kind] at hsteering
      obtain ⟨left, right, hb⟩ := Action.eq_branch_of_steering hsteering.symm
      exact absurd hb (hbranch _)
    | left l kind enough control iteration =>
      exact honward (fun _ => control) (Int.le_of_eq iteration.symm)
    | repeated l kind stands before ending few control iteration =>
      -- Expanding its texts has left alone what the end of the loop counts by.
      rw [kind] at hsteering
      obtain ⟨left, right, rfl⟩ := Action.eq_loopEnd_of_steering hsteering.symm
      have hmax : l.ending = .maxIterations := by
        rcases hending _ rfl with h | h
        · exact h
        · exact absurd h ending
      have hfew := few hmax
      rw [hsession] at hfew iteration
      exact ⟨goes_of_repeated hcounts hslot haction hnonneg hafter before hfew control iteration
        hresult hl, hkeep (by omega)⟩

end Visit

namespace Passage

variable {index : Nat} {success : Bool} {e e' : Engine} {vs : List Visit} {ending : Ending}
  {slots : List Slot}

/-- No more steps are visited than visits are due. -/
theorem length_le_due (h : Passage index success e vs ending e') (hcounts : e.Counting slots) :
    vs.length ≤ due (timesAt slots) e.countAt index slots.length := by
  have hreach {index : Nat} {e : Engine} {v : Visit} (hcounts : e.Counting slots)
      (h : e.reach index = (some (v.index, v.slot), v.before)) :
      v.before.Counting slots ∧ v.before.slots[v.index]? = some v.slot ∧ v.slot.enabled = true ∧
        v.index < slots.length ∧ due (timesAt slots) v.before.countAt v.index slots.length ≤
          due (timesAt slots) e.countAt index slots.length := by
    obtain ⟨hslots, hle, hslot, hon⟩ := Engine.slots_of_reach h
    have hbefore := hcounts.of_slots hslots
    have hlt : v.index < v.before.slots.length := (List.getElem?_eq_some_iff.mp hslot).1
    rw [length_of_map_asNew hbefore.same] at hlt
    have hcount : v.before.countAt = e.countAt := by
      unfold Engine.countAt
      rw [hslots]
    exact ⟨hbefore, hslot, hon, hlt, hcount ▸ due_mono hle⟩
  induction h with
  | finish _ => exact Nat.zero_le _
  | stop v h _ =>
    obtain ⟨-, -, -, hlt, hdue⟩ := hreach hcounts h
    rw [due_eq_add hlt] at hdue
    have hown : 1 ≤ dueAt (timesAt slots) v.index (v.before.countAt v.index) :=
      Nat.le_add_right 1 _
    rw [List.length_singleton]
    omega
  | @go _ _ _ next vs _ _ v h lands _ ih =>
    obtain ⟨hbefore, hslot, hon, hlt, hdue⟩ := hreach hcounts h
    -- Whether the run goes on or back, the visit makes use of one that was due.
    obtain ⟨hgoes, hsettled⟩ := Visit.goes_of_landing hbefore hslot hon lands
    have hrest := ih hsettled
    have hothers : ∀ j, j ≠ v.index → v.settled.countAt j = v.before.countAt j := fun j hj =>
      Visit.countAt_settled_of_ne hj
    have hless : due (timesAt slots) v.settled.countAt next slots.length + 1 ≤
        due (timesAt slots) v.before.countAt v.index slots.length := by
      cases hgoes with
      | on hnext =>
        rw [hnext]
        exact due_advance hlt hothers
      | back hnext hcount hfew =>
        exact due_repeat (one_le_timesAt slots) hnext hlt hcount hfew hothers
    rw [List.length_cons]
    omega

end Passage

/-! ## Runs -/

namespace Engine

/-- An engine that was made ready has counted nothing yet. -/
theorem counting_prepare {e : Engine} (h : ∀ s ∈ e.slots, s.Counted) (hprepare : e.prepare.1 = none) :
    e.prepare.2.Counting e.slots := by
  have hslots := slots_prepare hprepare
  refine ⟨?_, h, ?_⟩
  · rw [hslots, map_asNew_clearedSlots]
  · intro i m hm
    rw [hslots, getElem?_clearedSlots, Option.map_map, Option.map_eq_some_iff] at hm
    obtain ⟨s, -, rfl⟩ := hm
    exact Int.le_refl 0

/-- A run of counted steps visits no more of them than the bound tells. -/
theorem length_trail_le {e : Engine} (h : ∀ s ∈ e.slots, s.Counted) :
    e.trail.length ≤ stepBound e.slots.length (e.slots.filterMap Slot.limit?) := by
  cases hprepare : e.prepare.1 with
  | some why =>
    rw [(trail_of_problem hprepare).1]
    exact Nat.zero_le _
  | none =>
    calc e.trail.length ≤ due (timesAt e.slots) e.prepare.2.countAt 0 e.slots.length :=
        (passage_trail hprepare).length_le_due (counting_prepare h hprepare)
      _ ≤ most (timesAt e.slots) e.slots.length := due_le_most (one_le_timesAt e.slots) _ _ _
      _ ≤ stepBound e.slots.length (e.slots.filterMap Slot.limit?) := most_le_stepBound e.slots

end Engine

/-- A run of counted steps visits no more steps than a bound that is computed from the length of the
script and its numbers of repetitions. When as many steps are allowed, the loop of the run ends
without coming to a step too many, whatever the steps come to: every visit is an attempt, and control
is not lost because of the limit. -/
theorem run_bounded {e : Engine} {slots : Option (List Slot)}
    (hcounted : ∀ s ∈ slots.getD e.slots, s.Counted)
    (hmax : (stepBound (slots.getD e.slots).length
      ((slots.getD e.slots).filterMap Slot.limit?) : Int) ≤ e.maxSteps) :
    ((e.begun slots).prepare.1 = none → (e.begun slots).firstTurn.Ends (e.begun slots).ended) ∧
      (e.begun slots).trail.length ≤ stepBound (slots.getD e.slots).length
        ((slots.getD e.slots).filterMap Slot.limit?) ∧
      (∀ v ∈ (e.begun slots).trail, v.attempted = true) ∧
      (∀ t s, (e.begun slots).Takes t → ¬ t.OverAt s) ∧
      ∀ limit, (e.begun slots).lostControl ≠ some (.control (.stepLimit limit)) := by
  have hlength : (e.begun slots).trail.length ≤ stepBound (slots.getD e.slots).length
      ((slots.getD e.slots).filterMap Slot.limit?) :=
    Engine.length_trail_le (e := e.begun slots) hcounted
  have hattempted : ∀ v ∈ (e.begun slots).trail, v.attempted = true := by
    intro v hv
    -- A visit is an attempt when fewer visits precede it than steps are allowed.
    obtain ⟨k, hk⟩ := List.mem_iff_getElem?.mp hv
    have hlt : k < (e.begun slots).trail.length := (List.getElem?_eq_some_iff.mp hk).1
    have hroom : (k : Int) < e.maxSteps := by omega
    exact (Engine.attempted_trail hk).mpr hroom
  have hactions : (e.begun slots).ActsOnly := by
    intro s hs
    obtain ⟨a, ha, -⟩ := hcounted s hs
    exact ⟨a, ha⟩
  refine ⟨?_, hlength, hattempted, ?_, ?_⟩
  · intro hprepare
    rw [← (Engine.visits_firstTurn hprepare).2]
    exact Turn.ends_rest _
  · intro t s ht hover
    obtain ⟨hsame, hle⟩ := Engine.attempts_of_takes ht
    have hfull := hover.full
    rw [hsame] at hfull
    obtain ⟨hv, hnot⟩ :=
      Engine.unattempted_trail_iff.mpr ⟨t, s, ht, hover, by omega, rfl⟩
    cases (hattempted _ hv).symm.trans hnot
  · intro limit hlost
    obtain ⟨v, hv, hresult⟩ := Engine.exists_of_stepLimit hlost
    obtain ⟨⟨a, haction⟩, -⟩ := Engine.map_asNew_trail hactions v hv
    exact Visit.result_ne_stepLimit haction (hattempted v hv) limit hresult

/-- Two loops that share their start and overlap a third one, which starts in between. -/
def tangled : List Step :=
  [⟨true, false, .loopStart ⟨""⟩⟩, ⟨true, false, .loopStart ⟨""⟩⟩,
    ⟨true, false, .loopEnd ⟨1, .maxIterations, "", "", 2⟩⟩,
    ⟨true, false, .loopEnd ⟨2, .maxIterations, "", "", 3⟩⟩,
    ⟨true, false, .loopEnd ⟨1, .maxIterations, "", "", 2⟩⟩]

/-- An engine that may take as many steps as the bound tells for the tangled loops. -/
def tangledEngine : Engine := .new .blank (tangled.map .ofStep) false (stepBound 5 [2, 3, 2]) .record

theorem counted_tangled : ∀ s ∈ Option.getD none tangledEngine.slots, s.Counted := by
  intro s hs
  obtain ⟨step, hstep, rfl⟩ := List.mem_map.mp hs
  refine ⟨step.action, rfl, fun _ => ?_⟩
  simp only [tangled, List.mem_cons, List.not_mem_nil, or_false] at hstep
  rcases hstep with rfl | rfl | rfl | rfl | rfl
  all_goals
    constructor
    · intro b hb
      cases hb
    · intro l hl
      cases hl <;> exact .inl rfl

/-- The loops go around again and again because of each other, and come to an end in time. -/
theorem run_bounded_tangled :
    stepBound 5 [2, 3, 2] = 60 ∧ (tangledEngine.begun none).trail.length = 40 ∧
      ∀ v ∈ (tangledEngine.begun none).trail, v.attempted = true := by
  have hmax : (stepBound 5 [2, 3, 2] : Int) ≤ tangledEngine.maxSteps := Int.le_refl _
  obtain ⟨-, -, hattempted, -⟩ := run_bounded counted_tangled hmax
  exact ⟨by decide, by decide +kernel, hattempted⟩

end Deskwork
