/-
# Loops

A run of a flattened script goes along the walk of its outline: every single step is followed by the
next one, and the end of a loop sends the run back until its count is reached. When the run leaves a
loop, the count is at zero, whether for good or for the next time around an outer loop
(`stretch_outline`). So the single steps are visited in the order of the script with all loops
unrolled, and in the end every count is at zero (`run_unrolls`).
-/
import Deskwork.Proofs.Run.Outline
import Deskwork.Proofs.Run.References
import Deskwork.Proofs.Run.Stretch
import Deskwork.Proofs.Run.Whole
import Deskwork.Proofs.Session.Markers

namespace Deskwork

open StepM Template

/-! ## Single steps -/

/-- The step of the visit requests no transfer of control when it succeeds, and does not stop the
run when it fails; nothing is switched off. -/
structure Visit.Tame (v : Visit) : Prop where
  /-- It succeeds and requests nothing, or it fails and allows to go on. -/
  result : v.result = .ok true ∧ v.request = none ∨
    v.result = .ok false ∧ v.slot.continueOnError = true
  /-- What is no action switches nothing off; actions never do. -/
  enabled : (∀ a, v.slot.work ≠ .action a) →
    v.after.slots.map Slot.enabled = v.before.slots.map Slot.enabled

namespace Visit

theorem Tame.landing {v : Visit} (h : v.Tame) : v.landing = some (v.index + 1) := by
  rcases h.result with ⟨hresult, hrequest⟩ | ⟨hresult, hcontinue⟩
  · refine landing_of_ok hresult ?_
    rw [hrequest]
    rfl
  · unfold Visit.landing
    rw [hresult]
    dsimp only
    rw [if_pos hcontinue]

theorem Tame.map_enabled {v : Visit} (h : v.Tame) :
    v.after.slots.map Slot.enabled = v.before.slots.map Slot.enabled := by
  by_cases ha : ∃ a, v.slot.work = .action a
  · obtain ⟨a, ha⟩ := ha
    exact map_enabled_after ha
  · exact h.enabled fun a hw => ha ⟨a, hw⟩

end Visit

namespace Engine

/-- The steps at some indexes are tame as far as they are attempted in a run from an index on. -/
def TameAlong (leaves : List Nat) (budget index : Nat) (e : Engine) : Prop :=
  ∀ v ∈ visits budget index e, v.attempted = true → v.index ∈ leaves → v.Tame

variable {leaves leaves' : List Nat} {budget index next k : Nat} {e e' : Engine} {vs : List Visit}

/-- What holds of a run holds of what is left of it after a stretch. -/
theorem TameAlong.after {total : Nat} (h : e.TameAlong leaves total index)
    (hs : Stretch index e vs next e') (htotal : total = vs.length + budget) :
    e'.TameAlong leaves budget next := by
  intro v hv
  refine h v ?_
  rw [htotal, hs.visits_eq]
  exact List.mem_append_right vs hv

theorem TameAlong.mono (h : e.TameAlong leaves budget index) (hsub : leaves' ⊆ leaves) :
    e.TameAlong leaves' budget index :=
  fun v hv ha hk => h v hv ha (hsub hk)

/-- A tame step is followed by the next one. -/
theorem stretch_step {continueOnError : Bool} {work : Work}
    (hstands : e.Stands index ⟨true, continueOnError, work, .fresh⟩)
    (htame : e.TameAlong leaves (budget + 1) index) (hindex : index ∈ leaves) :
    ∃ v e', Stretch index e [v] (index + 1) e' ∧ v.index = index := by
  obtain ⟨s, hs, hnew⟩ := hstands
  have henabled : s.enabled = true := congrArg Slot.enabled hnew
  have hv := htame _ (visit_mem hs henabled) rfl hindex
  exact ⟨e.visit index s, _, stretch_visit hs henabled hv.landing hv.map_enabled, rfl⟩

/-! ## Markers -/

/-- The start of a loop is followed by its body. -/
theorem stretch_opening {m : Brackets} (hstands : e.Stands index m.opening) :
    ∃ v e', Stretch index e [v] (index + 1) e' ∧ v.index = index := by
  obtain ⟨s, hs, hnew⟩ := hstands
  have henabled : s.enabled = true := congrArg Slot.enabled hnew
  have haction : s.work = .action (.loopStart ⟨m.comment⟩) := congrArg Slot.work hnew
  have hwork : (e.visit index s).readied.1 = .ok (.action (.loopStart ⟨m.comment⟩)) := by
    show (expandWork s.work _ _).1 = _
    rw [haction]
    rfl
  obtain ⟨d, hrun⟩ := guarded_loopStart ((e.visit index s).session _) ⟨m.comment⟩
  obtain ⟨hresult, hrequest, -⟩ := Visit.of_guarded (v := e.visit index s) rfl hs hwork hrun
  have hlands : (e.visit index s).landing = some (index + 1) := by
    refine Visit.landing_of_ok hresult ?_
    rw [hrequest]
    rfl
  exact ⟨_, _, stretch_visit hs henabled hlands (Visit.map_enabled_after haction), rfl⟩

/-- The texts that may hold tokens can be expanded. -/
def Knows (e : Engine) (texts : List String) : Prop :=
  ∀ t ∈ texts, mayHoldTokens t = true → ∃ name, e.desk.userName = .ok name

theorem Knows.after {texts : List String} (h : e.Knows texts) (hs : Stretch index e vs next e') :
    e'.Knows texts := by
  unfold Knows
  rw [hs.userName_eq]
  exact h

theorem Knows.mono {texts texts' : List String} (h : e.Knows texts) (hsub : texts' ⊆ texts) :
    e.Knows texts' :=
  fun t ht => h t (hsub ht)

/-- Where its texts can be expanded, the end of a loop is made ready. -/
theorem readied_closing {v : Visit} {l : LoopEnd} (haction : v.slot.work = .action (.loopEnd l))
    (hknows : v.before.Knows [l.left, l.right]) :
    ∃ left right,
      v.readied.1 = .ok (.action (.loopEnd { l with left := left, right := right })) := by
  cases hr : v.readied.1 with
  | error f =>
    obtain ⟨⟨t, ht, htokens⟩, hf⟩ := (v.readied_eq_error_iff f).mp hr
    rw [haction, LoopEnd.templateTexts_eq] at ht
    obtain ⟨name, hname⟩ := hknows t ht htokens
    rw [hf] at hname
    cases hname
  | ok w =>
    have hexpand : (expandWork v.slot.work _ _).1 = .ok w := hr
    rw [haction] at hexpand
    obtain ⟨left, right, rfl⟩ := expandWork_loopEnd hexpand
    exact ⟨left, right, rfl⟩

/-- The step at an index is known by its kind. -/
theorem expectKind_of_getElem? {s : Slot} {kind : String} (hs : e.slots[index]? = some s)
    (htag : s.work.tag = kind) :
    expectKind (index + 1 : Nat) (some kind) (some (e.slots.map fun s => s.work.tag)) =
      .ok kind := by
  have hget : (e.slots.map fun s => s.work.tag)[index]? = some kind := by
    rw [List.getElem?_map, hs, ← htag]
    rfl
  unfold expectKind kindAt
  dsimp only
  rw [if_pos (by omega), Int.toNat_natCast, Nat.add_sub_cancel, hget]
  exact if_pos rfl

/-- The end of a loop sends the run back until its count is reached; then the loop is left and the
count is at zero. -/
theorem stretch_closing {m : Brackets} {times : Nat} {n : Int} (hopening : e.Stands index m.opening)
    (hcounts : e.Counts k (m.closing (index + 1) times) n) (hk : index < k) (htimes : 0 < times)
    (hknows : e.Knows [m.left, m.right]) :
    ∃ v e', v.index = k ∧
      Stretch k e [v] (if (times : Int) ≤ n + 1 then k + 1 else index) e' ∧
      e'.Counts k (m.closing (index + 1) times) (if (times : Int) ≤ n + 1 then 0 else n + 1) := by
  obtain ⟨o, ho, honew⟩ := hopening
  obtain ⟨s, hs, hnew, rfl⟩ := hcounts
  have henabled : s.enabled = true := congrArg Slot.enabled hnew
  have haction : s.work = .action (.loopEnd ⟨(index + 1 : Nat), .maxIterations, m.left, m.right,
    times⟩) := congrArg Slot.work hnew
  have htag : o.work.tag = LoopEnd.startTag := congrArg (fun s : Slot => s.work.tag) honew
  obtain ⟨left, right, hwork⟩ := readied_closing (v := e.visit k s) haction hknows
  -- The texts do not matter for a loop that only counts.
  obtain ⟨d, hrun⟩ := guarded_loopEnd (s := (e.visit k s).session _)
    (l := ⟨(index + 1 : Nat), .maxIterations, left, right, times⟩)
    (LoopEnd.check_eq_ok (Int.natCast_pos.mpr index.succ_pos) (Int.natCast_pos.mpr htimes)) rfl
    (show ((index + 1 : Nat) : Int) < ((k + 1 : Nat) : Int) by omega)
    (expectKind_of_getElem? ho htag)
  obtain ⟨hresult, hrequest, t, ht, hiteration⟩ :=
    Visit.of_guarded (v := e.visit k s) rfl hs hwork hrun
  rw [LoopEnd.control_counted] at hrequest
  rw [LoopEnd.iteration_counted] at hiteration
  have hlength : (e.visit k s).after.slots.length = e.slots.length :=
    (e.visit k s).moved_after.length
  have hlt : index < e.slots.length := (List.getElem?_eq_some_iff.mp ho).1
  have hinside : outside e.slots.length ((index + 1 : Nat) : Int) = false :=
    outside_eq_false_iff.mpr ⟨by omega, by omega⟩
  have hlands : (e.visit k s).landing =
      some (if (times : Int) ≤ s.progress.iteration + 1 then k + 1 else index) := by
    refine Visit.landing_of_ok hresult ?_
    rw [hrequest, hlength]
    show Visit.course _ k (if (times : Int) ≤ s.progress.iteration + 1 then _ else _) = _
    split
    · rfl
    · show (if outside e.slots.length ((index + 1 : Nat) : Int) then _ else _) = _
      rw [hinside]
      rfl
  have hstretch := stretch_visit hs henabled hlands (Visit.map_enabled_after haction)
  obtain ⟨u, hu, hsame, -⟩ := hstretch.slot_later hs
  obtain rfl := Option.some.inj (ht.symm.trans hu)
  exact ⟨_, _, rfl, hstretch, t, ht, hsame.trans hnew, hiteration⟩

/-! ## Outlines in the slots of an engine -/

/-- The flattened script stands in the slots from an index on, and no loop has counted any
repetition. -/
def Lies (e : Engine) : Nat → Outline → Prop
  | _, .done => True
  | index, .step continueOnError work rest =>
    e.Stands index ⟨true, continueOnError, work, .fresh⟩ ∧ Lies e (index + 1) rest
  | index, .loop times _ marks body rest =>
    e.Stands index marks.opening ∧ Lies e (index + 1) body ∧
      e.Counts (index + 1 + body.size) (marks.closing (index + 1) times) 0 ∧
      Lies e (index + 1 + body.size + 1) rest

/-- A stretch that visits none of its steps leaves an outline as it lies. -/
theorem Lies.after {p : Outline} {start : Nat} (h : e.Lies start p)
    (hs : Stretch index e vs next e') (haway : ∀ k ∈ p.walk start, k ∉ vs.map Visit.index) :
    e'.Lies start p := by
  induction p generalizing start with
  | done => trivial
  | step _ _ rest ih =>
    exact ⟨hs.stands h.1, ih h.2 fun k hk => haway k (List.mem_cons_of_mem _ hk)⟩
  | loop _ _ _ body rest ihbody ihrest =>
    obtain ⟨hopening, hbody, hclosing, hrest⟩ := h
    refine ⟨hs.stands hopening, ihbody hbody fun k hk => ?_, hs.counts ?_ hclosing,
      ihrest hrest fun k hk => ?_⟩
    · exact haway k (Outline.mem_walk_loop.mpr (.inr (.inl hk)))
    · exact haway _ (Outline.mem_walk_loop.mpr (.inr (.inr (.inl rfl))))
    · exact haway k (Outline.mem_walk_loop.mpr (.inr (.inr (.inr hk))))

/-- Where an outline lies with tame steps, a run goes along its walk and leaves it as it lay. -/
def Walks (p : Outline) : Prop :=
  ∀ {e : Engine} {index budget : Nat}, e.Lies index p → e.Knows p.texts →
    e.TameAlong (p.leaves index) ((p.walk index).length + budget) index →
    ∃ vs e', Stretch index e vs (index + p.size) e' ∧ vs.map Visit.index = p.walk index ∧
      e'.Lies index p

/-! ## Loops -/

section

variable {times : Nat} {marks : Brackets} {body : Outline}

/-- Once around a loop: the count grows, or the loop is left and the count is at zero. -/
theorem stretch_round (hbody : Walks body) (htimes : 0 < times) {n : Int}
    (hopening : e.Stands index marks.opening) (hlies : e.Lies (index + 1) body)
    (hcounts : e.Counts (index + 1 + body.size) (marks.closing (index + 1) times) n)
    (hknows : e.Knows ([marks.left, marks.right] ++ body.texts))
    (htame : e.TameAlong (body.leaves (index + 1))
      ((body.round index).length + budget) index) :
    ∃ vs e', Stretch index e vs
        (if (times : Int) ≤ n + 1 then index + 1 + body.size + 1 else index) e' ∧
      vs.map Visit.index = body.round index ∧
      e'.Stands index marks.opening ∧ e'.Lies (index + 1) body ∧
      e'.Counts (index + 1 + body.size) (marks.closing (index + 1) times)
        (if (times : Int) ≤ n + 1 then 0 else n + 1) := by
  obtain ⟨v, e₁, hv, hvindex⟩ := stretch_opening hopening
  have hvmap : [v].map Visit.index = [index] := congrArg (fun k => [k]) hvindex
  have hlies₁ : e₁.Lies (index + 1) body := by
    refine hlies.after hv fun k hk => ?_
    have := body.walk_bounds hk
    rw [hvmap, List.mem_singleton]
    omega
  have hlength : (body.round index).length + budget =
      [v].length + ((body.walk (index + 1)).length + (1 + budget)) := by
    simp only [Outline.round, List.length_cons, List.length_append, List.length_nil]
    omega
  have htame₁ := htame.after hv hlength
  obtain ⟨ws, e₂, hws, hwalk, hlies₂⟩ := hbody hlies₁
    ((hknows.after hv).mono (List.subset_append_right _ _)) htame₁
  have hcounts₂ : e₂.Counts (index + 1 + body.size) (marks.closing (index + 1) times) n := by
    refine hws.counts ?_ (hv.counts ?_ hcounts)
    · intro hk
      rw [hwalk] at hk
      have := body.walk_bounds hk
      omega
    · rw [hvmap, List.mem_singleton]
      omega
  obtain ⟨w, e₃, hwindex, hw, hcounts₃⟩ := stretch_closing (hws.stands (hv.stands hopening))
    hcounts₂ (by omega) htimes
    (((hknows.after hv).after hws).mono (List.subset_append_left _ _))
  have hwmap : [w].map Visit.index = [index + 1 + body.size] := congrArg (fun k => [k]) hwindex
  refine ⟨v :: (ws ++ [w]), e₃, hv.trans (hws.trans hw), ?_, ?_, ?_, hcounts₃⟩
  · rw [List.map_cons, List.map_append, hvindex, hwalk, hwmap, Outline.round]
  · exact hw.stands (hws.stands (hv.stands hopening))
  · refine hlies₂.after hw fun k hk => ?_
    have := body.walk_bounds hk
    rw [hwmap, List.mem_singleton]
    omega

/-- Around a loop until it is left: as many times as are left to count. -/
theorem stretch_rounds (hbody : Walks body) (left : Nat) (hleft : 0 < left) (hle : left ≤ times)
    (hopening : e.Stands index marks.opening) (hlies : e.Lies (index + 1) body)
    (hcounts : e.Counts (index + 1 + body.size) (marks.closing (index + 1) times) (times - left))
    (hknows : e.Knows ([marks.left, marks.right] ++ body.texts))
    (htame : e.TameAlong (body.leaves (index + 1))
      ((List.replicate left (body.round index)).flatten.length + budget) index) :
    ∃ vs e', Stretch index e vs (index + 1 + body.size + 1) e' ∧
      vs.map Visit.index = (List.replicate left (body.round index)).flatten ∧
      e'.Stands index marks.opening ∧ e'.Lies (index + 1) body ∧
      e'.Counts (index + 1 + body.size) (marks.closing (index + 1) times) 0 := by
  -- The induction is on the rounds that are left; the count is what they leave of all rounds.
  induction left generalizing e with
  | zero => exact absurd hleft (Nat.lt_irrefl 0)
  | succ left ih =>
    rw [List.replicate_succ, List.flatten_cons, List.length_append, Nat.add_assoc] at htame
    obtain ⟨vs, e', hvs, hmap, hopening', hlies', hcounts'⟩ :=
      stretch_round hbody (by omega) hopening hlies hcounts hknows htame
    rw [List.replicate_succ, List.flatten_cons]
    by_cases hlast : left = 0
    · -- The count is reached.
      have hreached : (times : Int) ≤ times - (left + 1 : Nat) + 1 := by omega
      rw [if_pos hreached] at hvs hcounts'
      refine ⟨vs, e', hvs, ?_, hopening', hlies', hcounts'⟩
      rw [hmap, hlast, List.replicate_zero, List.flatten_nil, List.append_nil]
    · have hreached : ¬ (times : Int) ≤ times - (left + 1 : Nat) + 1 := by omega
      rw [if_neg hreached] at hvs hcounts'
      have hcount : (times : Int) - (left + 1 : Nat) + 1 = times - left := by omega
      rw [hcount] at hcounts'
      obtain ⟨ws, e'', hws, hmap', hrest⟩ := ih (by omega) (by omega) hopening' hlies' hcounts'
        (hknows.after hvs) (htame.after hvs (by rw [← hmap, List.length_map]))
      exact ⟨vs ++ ws, e'', hvs.trans hws, by rw [List.map_append, hmap, hmap'], hrest⟩

end

/-- A single step and an outline that follows it. -/
theorem walks_step {rest : Outline} (continueOnError : Bool) (work : Work) (hrest : Walks rest) :
    Walks (.step continueOnError work rest) := by
  intro e index budget hlies hknows htame
  have hlength : ((Outline.step continueOnError work rest).walk index).length + budget =
      (rest.walk (index + 1)).length + budget + 1 := by
    rw [Outline.walk, List.length_cons, Nat.add_right_comm]
  rw [hlength] at htame
  obtain ⟨v, e₁, hv, hindex⟩ := stretch_step hlies.1 htame List.mem_cons_self
  have hvmap : [v].map Visit.index = [index] := congrArg (fun k => [k]) hindex
  -- The step stands in front of what follows it.
  have hlies₁ : e₁.Lies (index + 1) rest := by
    refine hlies.2.after hv fun k hk => ?_
    have := rest.walk_bounds hk
    rw [hvmap, List.mem_singleton]
    omega
  obtain ⟨vs, e₂, hvs, hmap, hlies₂⟩ := hrest hlies₁ (hknows.after hv)
    ((htame.after hv (Nat.add_comm _ 1)).mono (List.subset_cons_self _ _))
  have hstep := hvs.stands (hv.stands hlies.1)
  rw [Nat.add_assoc, Nat.add_comm 1] at hvs
  refine ⟨v :: vs, e₂, hv.trans hvs, ?_, hstep, hlies₂⟩
  rw [List.map_cons, hindex, hmap, Outline.walk]

/-- A loop and an outline that follows it. The body is walked once for every round: its own counts
must be back at zero each time, which is why an outline is left as it lay. -/
theorem walks_loop {body rest : Outline} (times : Nat) (positive : 0 < times) (marks : Brackets)
    (hbody : Walks body) (hrest : Walks rest) : Walks (.loop times positive marks body rest) := by
  intro e index budget hlies hknows htame
  obtain ⟨hopening, hlies_body, hcounts, hlies_rest⟩ := hlies
  have hknows_loop : e.Knows ([marks.left, marks.right] ++ body.texts) := by
    refine hknows.mono ?_
    rw [Outline.texts, ← List.append_assoc]
    exact List.subset_append_left _ _
  rw [Outline.walk, List.length_append, Nat.add_assoc] at htame
  have hfirst : e.Counts (index + 1 + body.size) (marks.closing (index + 1) times)
      (times - times) := by
    rw [Int.sub_self]
    exact hcounts
  obtain ⟨vs, e₁, hvs, hmap, hopening₁, hlies₁, hcounts₁⟩ := stretch_rounds hbody times positive
    (Nat.le_refl _) hopening hlies_body hfirst hknows_loop
    (htame.mono (List.subset_append_left _ _))
  -- The loop stands in front of what follows it, and is not visited again.
  have hrest₁ : e₁.Lies (index + 1 + body.size + 1) rest := by
    refine hlies_rest.after hvs fun k hk hk' => ?_
    rw [hmap] at hk'
    have := rest.walk_bounds hk
    have := body.rounds_bounds hk'
    omega
  have hlength : (List.replicate times (body.round index)).flatten.length = vs.length := by
    rw [← hmap, List.length_map]
  have htame₁ := (htame.mono (List.subset_append_right _ _)).after hvs
    (congrArg (· + _) hlength)
  obtain ⟨ws, e₂, hws, hmap₂, hlies₂⟩ := hrest hrest₁ ((hknows.after hvs).mono (by
    rw [Outline.texts, ← List.append_assoc]
    exact List.subset_append_right _ _)) htame₁
  have hsize : index + 1 + body.size + 1 + rest.size =
      index + (Outline.loop times positive marks body rest).size := by
    rw [Outline.size]
    omega
  rw [hsize] at hws
  refine ⟨vs ++ ws, e₂, hvs.trans hws, ?_, hws.stands hopening₁, ?_, ?_, hlies₂⟩
  · rw [List.map_append, hmap, hmap₂]
    rfl
  · refine hlies₁.after hws fun k hk hk' => ?_
    rw [hmap₂] at hk'
    have := body.walk_bounds hk
    have := rest.walk_bounds hk'
    omega
  · refine hws.counts (fun hk' => ?_) hcounts₁
    rw [hmap₂] at hk'
    have := rest.walk_bounds hk'
    omega

/-- A run goes along the walk of any outline and leaves it as it lay. -/
theorem stretch_outline (p : Outline) : Walks p := by
  induction p with
  | done => exact fun _ _ _ => ⟨[], _, .here, rfl, trivial⟩
  | step continueOnError work rest ih => exact walks_step continueOnError work ih
  | loop times positive marks body rest ihbody ihrest =>
    exact walks_loop times positive marks ihbody ihrest

/-! ## The beginning of a run -/

/-- The markers refer to positions of the flattened script. -/
theorem references_flatten (p : Outline) {total index : Nat}
    (hworks : ∀ w ∈ p.works, ∀ target ∈ w.references, outside total target = false)
    (htotal : index + p.size ≤ total) :
    ∀ s ∈ p.flatten index, ∀ target ∈ s.work.references, outside total target = false := by
  induction p generalizing index with
  | done => simp [Outline.flatten]
  | step _ work rest ih =>
    rw [Outline.size] at htotal
    intro s hs
    rcases List.mem_cons.mp hs with rfl | hs
    · exact hworks work List.mem_cons_self
    · exact ih (fun w hw => hworks w (List.mem_cons_of_mem _ hw)) (by omega) s hs
  | loop times _ marks body rest ihbody ihrest =>
    rw [Outline.size] at htotal
    intro s hs
    rcases List.mem_cons.mp hs with rfl | hs
    · intro target ht
      cases ht
    · rcases List.mem_append.mp hs with hs | hs
      · exact ihbody (fun w hw => hworks w (List.mem_append_left _ hw)) (by omega) s hs
      · rcases List.mem_cons.mp hs with rfl | hs
        · intro target ht
          obtain rfl : target = ((index + 1 : Nat) : Int) := List.mem_singleton.mp ht
          exact outside_eq_false_iff.mpr ⟨by omega, by omega⟩
        · exact ihrest (fun w hw => hworks w (List.mem_append_right _ hw)) (by omega) s hs

/-- What is flattened into the slots of an engine lies there. -/
theorem lies_of_flatten (p : Outline) {e : Engine} {index : Nat} (back : List Slot)
    (hslots : (e.slots.map Slot.asNew).drop index = p.flatten index ++ back)
    (hzero : ∀ s ∈ e.slots, s.progress.iteration = 0) : e.Lies index p := by
  have hcounts {index : Nat} {s : Slot} {back : List Slot}
      (h : (e.slots.map Slot.asNew).drop index = s :: back) : e.Counts index s 0 := by
    have hget : (e.slots.map Slot.asNew)[index]? = some s := by
      rw [← Nat.add_zero index, ← List.getElem?_drop, h, List.getElem?_cons_zero]
    rw [List.getElem?_map, Option.map_eq_some_iff] at hget
    obtain ⟨t, ht, hnew⟩ := hget
    exact ⟨t, ht, hnew, hzero t (List.mem_of_getElem? ht)⟩
  have htail {index : Nat} {s : Slot} {back : List Slot}
      (h : (e.slots.map Slot.asNew).drop index = s :: back) :
      (e.slots.map Slot.asNew).drop (index + 1) = back := by
    rw [← List.drop_drop, h]
    rfl
  induction p generalizing index back with
  | done => trivial
  | step _ _ rest ih => exact ⟨(hcounts hslots).stands, ih _ (htail hslots)⟩
  | loop times _ marks body rest ihbody ihrest =>
    rw [Outline.flatten, List.cons_append, List.append_assoc, List.cons_append] at hslots
    have hbody := htail hslots
    have hclosing : (e.slots.map Slot.asNew).drop (index + 1 + body.size) =
        marks.closing (index + 1) times :: (rest.flatten (index + 1 + body.size + 1) ++ back) := by
      rw [← List.drop_drop, hbody, List.drop_left' (body.length_flatten _)]
    exact ⟨(hcounts hslots).stands, ihbody _ hbody, hcounts hclosing, ihrest _ (htail hclosing)⟩

/-- The ends of the loops of an outline that lies in the slots have counted nothing. -/
theorem Lies.iteration_eq {p : Outline} {e : Engine} {index k : Nat} (h : e.Lies index p)
    (hk : k ∈ p.ends index) : ∃ s, e.slots[k]? = some s ∧ s.progress.iteration = 0 := by
  induction p generalizing index with
  | done => cases hk
  | step _ _ rest ih => exact ih h.2 hk
  | loop _ _ _ body rest ihbody ihrest =>
    obtain ⟨-, hbody, ⟨s, hs, -, hzero⟩, hrest⟩ := h
    rcases List.mem_append.mp hk with hk | hk
    · exact ihbody hbody hk
    · rcases List.mem_cons.mp hk with rfl | hk
      · exact ⟨s, hs, hzero⟩
      · exact ihrest hrest hk

/-- A flattened script can be made ready, and then lies in the slots. -/
theorem prepare_flatten {e : Engine} {p : Outline} (hslots : e.slots.map Slot.asNew = p.flatten 0)
    (hworks : ∀ w ∈ p.works, ∀ target ∈ w.references, outside p.size target = false) :
    e.prepare.1 = none ∧ e.prepare.2.Lies 0 p := by
  have hlength : e.slots.length = p.size := by
    rw [← p.length_flatten 0, ← hslots, List.length_map]
  have hnew : e.clearedSlots.map Slot.asNew = p.flatten 0 := (map_asNew_clearedSlots e).trans hslots
  have hprepare : e.prepare.1 = none := by
    refine prepare_of_referring fun s hs _ r hr => outside_eq_false_iff.mp ?_
    have hmem : s.asNew ∈ p.flatten 0 := hslots ▸ List.mem_map_of_mem hs
    rw [hlength]
    exact references_flatten p hworks (Nat.le_of_eq (Nat.zero_add p.size)) s.asNew hmem r hr
  refine ⟨hprepare, lies_of_flatten p [] ?_ ?_⟩
  · rw [slots_prepare hprepare, hnew, List.drop_zero, List.append_nil]
  · rw [slots_prepare hprepare]
    intro s hs
    obtain ⟨i, hi⟩ := List.mem_iff_getElem?.mp hs
    rw [getElem?_clearedSlots, Option.map_eq_some_iff] at hi
    obtain ⟨t, -, rfl⟩ := hi
    rfl

/-- The steps of a run along an outline: they are attempted in the order of its walk, and the run
comes to its end with the outline as it lay. -/
theorem ended_outline {e : Engine} {p : Outline} (hprepare : e.prepare.1 = none)
    (hlies : e.prepare.2.Lies 0 p) (hlength : e.prepare.2.slots.length = p.size)
    (hknows : e.prepare.2.Knows p.texts) (hsteps : ((p.walk 0).length : Int) ≤ e.maxSteps)
    (htame : ∀ v ∈ e.trail, v.attempted = true → v.index ∈ p.leaves 0 → v.Tame) :
    e.trail.map Visit.index = p.walk 0 ∧ (∀ v ∈ e.trail, v.attempted = true) ∧
      e.ended.1 = .finished (e.trail.all Visit.ok) ∧ e.ended.2.Lies 0 p := by
  have hpair : e.prepare = (none, e.prepare.2) := Prod.ext hprepare rfl
  have hmax : e.prepare.2.maxSteps = e.maxSteps := e.prepare_snd.2.2.2
  obtain ⟨budget, hbudget⟩ : ∃ budget, e.prepare.2.maxSteps.toNat = (p.walk 0).length + budget :=
    ⟨e.maxSteps.toNat - (p.walk 0).length, by rw [hmax]; omega⟩
  have htrail : e.trail = visits ((p.walk 0).length + budget) 0 e.prepare.2 := by
    unfold trail
    rw [hpair, ← hbudget]
  have hended : e.ended = steps ((p.walk 0).length + budget) 0 true e.prepare.2 := by
    unfold ended
    rw [hpair, ← hbudget]
  rw [htrail] at htame ⊢
  obtain ⟨vs, e', hvs, hmap, hlies'⟩ := stretch_outline p hlies hknows htame
  have hcount : (p.walk 0).length = vs.length := by rw [← hmap, List.length_map]
  -- Nothing stands after the flattened script.
  have hover : e'.reach (0 + p.size) = (none, e') :=
    reach_of_length_le (by rw [hvs.moved.length, hlength]; omega)
  rw [hended, hcount, hvs.visits_eq, hvs.steps_eq, visits_of_none hover, steps_of_none hover,
    List.append_nil, Bool.true_and]
  exact ⟨hmap, hvs.attempted, rfl, hlies'⟩

end Engine

/-! ## The result -/

/-- An idle engine whose log accepts entries runs a flattened script with tame single steps, enough
steps being allowed: it attempts the steps in the order of the script with all loops unrolled, tells
who watches of them, and returns. It succeeds when no step failed, and every loop is left with its
count at zero, whatever progress the steps had made before. A single step may refer to positions of
the script only, as the run would be refused otherwise. -/
theorem run_unrolls {e : Engine} (h : e.running = false) (hready : e.desk.log.ready = .ok ())
    {p : Outline} {slots : List Slot} (hslots : slots.map Slot.asNew = p.flatten 0)
    (hworks : ∀ w ∈ p.works, ∀ target ∈ w.references, Engine.outside p.size target = false)
    (hknows : e.Knows p.texts) (hsteps : ((p.walk 0).length : Int) ≤ e.maxSteps)
    (htame : ∀ v ∈ (e.begun (some slots)).trail,
      v.attempted = true → v.index ∈ p.leaves 0 → v.Tame) :
    ((e.begun (some slots)).trail.map Visit.index).filter (· ∈ p.leaves 0) = p.unrolled 0 ∧
      (e.begun (some slots)).trail.map Visit.index = p.walk 0 ∧
      (∀ v ∈ (e.begun (some slots)).trail, v.attempted = true) ∧
      (e.run (some slots)).1 = .ok ((e.begun (some slots)).trail.all Visit.ok) ∧
      (e.run (some slots)).2.desk.notices = e.desk.notices ++
        e.notes ((e.begun (some slots)).trail.map Visit.notice ++ [(e.begun
          (some slots)).ended.2.completion ((e.begun (some slots)).trail.all Visit.ok)]) ∧
      ∀ k ∈ p.ends 0, ∃ s, (e.run (some slots)).2.slots[k]? = some s ∧
        s.progress.iteration = 0 := by
  obtain ⟨hprepare, hlies⟩ := Engine.prepare_flatten (e := e.begun (some slots)) hslots hworks
  have hlength : (e.begun (some slots)).prepare.2.slots.length = p.size := by
    rw [Engine.slots_prepare hprepare, ← p.length_flatten 0, ← hslots, List.length_map]
    exact List.length_mapIdx
  have hknows' : (e.begun (some slots)).prepare.2.Knows p.texts := by
    unfold Engine.Knows
    rw [(e.begun (some slots)).prepare_snd.1.userName, (e.steady_begun (some slots)).userName]
    exact hknows
  obtain ⟨hwalk, hattempted, hended, hlies'⟩ :=
    Engine.ended_outline hprepare hlies hlength hknows' hsteps htame
  have hleaves : (p.walk 0).filter (· ∈ p.leaves 0) = p.unrolled 0 :=
    p.filter_walk fun _ _ _ => Iff.rfl
  have hrun : (e.run (some slots)).1 = .ok ((e.begun (some slots)).trail.all Visit.ok) := by
    rw [Engine.run_eq h hready, hended]
    rfl
  have hreturned := Engine.run_returned h (Prod.ext hrun rfl)
  refine ⟨hwalk ▸ hleaves, hwalk, hattempted, hrun, ?_, fun k hk => ?_⟩
  · exact ((e.steady_begun (some slots)).gain hreturned.gains).notices
  · obtain ⟨s, hs, hzero⟩ := hlies'.iteration_eq hk
    exact ⟨s, by rw [hreturned.slots, hs], hzero⟩

/-- Whether an attempted action is seen to be tame. -/
def Visit.isTame (v : Visit) : Bool :=
  match v.slot.work, v.result with
  | .action _, .ok true => v.request.isNone
  | .action _, .ok false => v.slot.continueOnError
  | _, _ => false

theorem Visit.tame_of_isTame {v : Visit} (h : v.isTame = true) : v.Tame := by
  unfold Visit.isTame at h
  split at h
  · next ha hr =>
    exact ⟨.inl ⟨hr, Option.isNone_iff_eq_none.mp h⟩, fun hnot => absurd ha (hnot _)⟩
  · next ha hr => exact ⟨.inr ⟨hr, h⟩, fun hnot => absurd ha (hnot _)⟩
  · cases h

/-- A loop in a loop, with a step that succeeds and one that fails but allows to go on. -/
def nestedLoops : Outline :=
  .loop 2 (by decide) ⟨"outer", "", "", false, false⟩
    (.step false (.action (.assign ⟨"x", "1", .set⟩))
      (.loop 3 (by decide) ⟨"inner", "", "", false, false⟩
        (.step true (.action (.assign ⟨"", "1", .set⟩)) .done) .done)) .done

/-- An engine that may take as many steps as the loop in a loop needs. -/
def patientEngine : Engine := .new .blank [] false 24 .record

/-- The inner step is carried out three times after each time of the outer one. -/
theorem run_unrolls_nested :
    ((patientEngine.begun (some (nestedLoops.flatten 0))).trail.map Visit.index).filter
        (· ∈ nestedLoops.leaves 0) = [1, 3, 3, 3, 1, 3, 3, 3] ∧
      (patientEngine.run (some (nestedLoops.flatten 0))).1 = .ok false ∧
      ∀ k ∈ nestedLoops.ends 0, ∃ s,
        (patientEngine.run (some (nestedLoops.flatten 0))).2.slots[k]? = some s ∧
          s.progress.iteration = 0 := by
  have hnew : (nestedLoops.flatten 0).map Slot.asNew = nestedLoops.flatten 0 := rfl
  have hknows : patientEngine.Knows nestedLoops.texts := fun _ _ _ => ⟨_, rfl⟩
  have htame : ((patientEngine.begun (some (nestedLoops.flatten 0))).trail.all fun v =>
      !(nestedLoops.leaves 0).contains v.index || v.isTame) = true := by decide +kernel
  have hfailed : (patientEngine.begun (some (nestedLoops.flatten 0))).trail.all Visit.ok =
      false := by decide +kernel
  obtain ⟨horder, -, -, hresult, -, hends⟩ := run_unrolls (e := patientEngine) rfl rfl hnew
    (by decide) hknows (by decide) fun v hv _ hk =>
      Visit.tame_of_isTame (by simpa [hk] using List.all_eq_true.mp htame v hv)
  exact ⟨horder, hfailed ▸ hresult, hends⟩

end Deskwork
