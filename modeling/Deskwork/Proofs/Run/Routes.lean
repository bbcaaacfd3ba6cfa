/-
# Routes

Before a run the references of its enabled steps are looked at once. When one of them leads out of
the script, the run is turned down at the first such step. Otherwise no route of the run ever leads
out of it: every request is made from a reference that was looked at, since expanding templates
leaves the references alone, and the end of a loop goes back only to a start that it has found above
itself (`leads_of_marks`). The two checks made on the way are never needed (`run_routes`).
-/
import Deskwork.Proofs.Run.References
import Deskwork.Proofs.Run.Steering

namespace Deskwork

open StepM

namespace Engine

/-! ## Charted engines -/

/-- The transfer that the step at an index has requested, if any. -/
def signal? (e : Engine) (index : Nat) : Option Signal :=
  (e.slots[index]?).bind fun s => s.progress.control

/-- A request of the step at an index leads to a step of the script, and that of a loop to a start of
a loop further up. -/
structure Leads (e : Engine) (index : Nat) (r : Signal) : Prop where
  /-- A jump leads to a step of the script. -/
  jump : r.transfer = .jump → InScript e.slots.length r.target
  /-- A loop goes back to a start further up. -/
  loopBack : r.transfer = .loopBack → ∃ k s l, r.target = (k + 1 : Nat) ∧ k < index ∧
    e.slots[k]? = some s ∧ s.work = .action (.loopStart l)

/-- All requests that were made lead to steps of the script. -/
def Charted (e : Engine) : Prop := ∀ i r, e.signal? i = some r → e.Leads i r

/-- Only how the steps are authored counts for where a request leads. -/
theorem Leads.congr {e e' : Engine} {index : Nat} {r : Signal} (h : e.Leads index r)
    (hsame : e'.slots.map Slot.asNew = e.slots.map Slot.asNew) : e'.Leads index r := by
  constructor
  · intro hjump
    rw [length_of_map_asNew hsame]
    exact h.jump hjump
  · intro hback
    obtain ⟨k, s, l, htarget, hlt, hs, hl⟩ := h.loopBack hback
    obtain ⟨t, ht, hwork, -⟩ := exists_of_map_asNew hsame.symm hs
    exact ⟨k, t, l, htarget, hlt, ht, hwork.symm.trans hl⟩

/-- A request that leads to a step of the script goes to a position in it. -/
theorem Leads.inScript {e : Engine} {index : Nat} {r : Signal} (h : e.Leads index r)
    (htransfer : r.transfer = .jump ∨ r.transfer = .loopBack) :
    InScript e.slots.length r.target := by
  rcases htransfer with hjump | hback
  · exact h.jump hjump
  · obtain ⟨k, s, l, htarget, -, hs, -⟩ := h.loopBack hback
    have hlt : k < e.slots.length := (List.getElem?_eq_some_iff.mp hs).1
    rw [htarget]
    constructor
    · omega
    · omega

theorem signal?_eq_mark (e : Engine) (i : Nat) :
    e.signal? i = ((e.slots[i]?).map Slot.mark).bind Prod.fst := by
  unfold signal?
  cases e.slots[i]? <;> rfl

/-- An engine with the same marks and the same authored steps is charted, too. -/
theorem Charted.congr {e e' : Engine} (h : e.Charted)
    (hmarks : e'.slots.map Slot.mark = e.slots.map Slot.mark)
    (hsame : e'.slots.map Slot.asNew = e.slots.map Slot.asNew) : e'.Charted := by
  intro i r hr
  refine (h i r ?_).congr hsame
  have hi := congrArg (·[i]?) hmarks
  simp only [List.getElem?_map] at hi
  rw [signal?_eq_mark, ← hi, ← signal?_eq_mark]
  exact hr

end Engine

/-! ## Looking steps up -/

/-- The session among more steps than those of the script. -/
def Session.widened (more : List String) (s : Session) : Session :=
  { s with kinds := s.kinds.map (· ++ more) }

/-- An attempt that looks up positions in the script only does not notice what stands beyond it. -/
theorem StepM.guarded_widened {a : Action} {s : Session} {kinds : List String}
    (hkinds : s.kinds = some kinds) (h : ∀ r ∈ a.references, InScript kinds.length r)
    (more : List String) :
    runIn (s.widened more) (Engine.guarded (.action a)) =
      ((runIn s (Engine.guarded (.action a))).1,
        (runIn s (Engine.guarded (.action a))).2.widened more) := by
  -- The kinds are changed only where they are those of the script.
  let wide : Option (List String) → Option (List String) := fun known =>
    if known = some kinds then some (kinds ++ more) else known
  have hwide {t : Session} (ht : t.kinds = some kinds) : t.widened more = beside 0 wide t := by
    have hkinds : t.kinds.map (· ++ more) = wide t.kinds := by
      show _ = if t.kinds = some kinds then some (kinds ++ more) else t.kinds
      rw [if_pos ht, ht]
      rfl
    unfold Session.widened
    rw [hkinds]
    rfl
  have hignores : Ignores (beside 0 wide) (Engine.guarded (.action a)) := by
    refine ignores_guarded (a.ignores_run fun l hl known => ?_)
    have hstart : InScript kinds.length l.start := h l.start (by rw [hl]; exact List.mem_singleton_self _)
    show expectKind _ _ (if known = some kinds then some (kinds ++ more) else known) = _
    by_cases hknown : known = some kinds
    · rw [if_pos hknown, hknown]
      unfold expectKind
      rw [kindAt_append hstart more]
    · rw [if_neg hknown]
  rw [hwide hkinds, hwide ((kinds_guarded s a).trans hkinds)]
  exact hignores s

/-! ## Requests -/

/-- Control would go to a step, or a step was looked up, where there is none. -/
def Misrouting.isMissing : Misrouting → Bool
  | .noSuchStep _ _ | .badReference _ _ _ _ | .badTarget _ _ _ => true
  | _ => false

/-- The start of a loop is known by its tag. -/
theorem Action.eq_loopStart_of_tag {a : Action} (h : a.tag = LoopEnd.startTag) :
    ∃ l, a = .loopStart l := by
  cases a with
  | loopStart l => exact ⟨l, rfl⟩
  | _ => simp [tag, LoopEnd.startTag] at h

/-- A branch jumps only to the position that it refers to, and it never goes back to a loop. -/
theorem Branch.references_of_request {b : Branch} {r : Signal} (h : b.request? = some r) :
    (r.transfer = .jump → r.target ∈ b.references) ∧ r.transfer ≠ .loopBack := by
  unfold request? at h
  unfold references
  cases hb : b.consequence with
  | proceed =>
    rw [hb] at h
    cases h
  | jump =>
    rw [hb] at h
    obtain rfl := Option.some.inj h
    constructor
    · intro _
      rw [if_pos rfl]
      exact List.mem_singleton_self _
    · intro hback
      cases hback
  | skipNext =>
    rw [hb] at h
    obtain rfl := Option.some.inj h
    constructor
    · intro hjump
      cases hjump
    · intro hback
      cases hback
  | exit =>
    rw [hb] at h
    obtain rfl := Option.some.inj h
    constructor
    · intro hjump
      cases hjump
    · intro hback
      cases hback

namespace Engine

/-- The steps are actions, those that are enabled refer to steps of the script only, and all requests
that were made lead to steps of the script. -/
structure Surveyed (e : Engine) : Prop where
  /-- All steps are actions. -/
  actions : e.ActsOnly
  /-- The enabled ones refer to steps of the script. -/
  references : Referring e.slots.length e.slots
  /-- The requests lead to steps of the script. -/
  charted : e.Charted

/-- The kinds of the steps of a script. -/
def kinds (e : Engine) : List String := e.slots.map fun s => s.work.tag

theorem length_kinds (e : Engine) : e.kinds.length = e.slots.length := List.length_map ..

/-- The end of a loop at an index that has found its start above itself goes back to a start. -/
theorem leads_of_found {e : Engine} {index : Nat} {start : Int} (hactions : e.ActsOnly)
    (hstart : InScript e.slots.length start)
    (hfound : ∃ kind, expectKind start (some LoopEnd.startTag) (some e.kinds) = .ok kind)
    (hbefore : start < (index + 1 : Nat)) : e.Leads index ⟨.loopBack, start⟩ := by
  constructor
  · intro hjump
    cases hjump
  · intro _
    obtain ⟨kind, hkind⟩ := hfound
    obtain ⟨-, htag⟩ | ⟨other, hother⟩ :=
      expectKind_of_inScript LoopEnd.startTag (e.length_kinds ▸ hstart)
    · unfold kinds at htag
      rw [List.getElem?_map, Option.map_eq_some_iff] at htag
      obtain ⟨s, hs, htag⟩ := htag
      obtain ⟨a, ha⟩ := hactions s (List.mem_of_getElem? hs)
      rw [ha] at htag
      obtain ⟨l, rfl⟩ := Action.eq_loopStart_of_tag htag
      have hlow : 1 ≤ start := hstart.1
      refine ⟨start.toNat - 1, s, l, ?_, by omega, hs, ha⟩
      show start = _
      omega
    · rw [hother] at hkind
      cases hkind

/-- The same steps with charted requests are surveyed, too. -/
theorem Surveyed.of_same {e e' : Engine} (h : e.Surveyed)
    (hsame : e'.slots.map Slot.asNew = e.slots.map Slot.asNew) (hcharted : e'.Charted) :
    e'.Surveyed := by
  have hold : ∀ t ∈ e'.slots, ∃ s ∈ e.slots, t.work = s.work ∧ t.enabled = s.enabled := by
    intro t ht
    obtain ⟨i, hi⟩ := List.mem_iff_getElem?.mp ht
    obtain ⟨s, hs, hst⟩ := exists_of_map_asNew hsame hi
    exact ⟨s, List.mem_of_getElem? hs, hst⟩
  constructor
  · intro t ht
    obtain ⟨s, hs, hwork, -⟩ := hold t ht
    obtain ⟨a, ha⟩ := h.actions s hs
    exact ⟨a, hwork.trans ha⟩
  · intro t ht hon r hr
    obtain ⟨s, hs, hwork, henabled⟩ := hold t ht
    rw [length_of_map_asNew hsame]
    exact h.references s hs (henabled.symm.trans hon) r (hwork ▸ hr)
  · exact hcharted

end Engine

/-! ## Visits -/

namespace Visit

variable {v : Visit} {a a' : Action}

/-- What an action requests after an attempt leads to a step of the script, if what it requested
before does. -/
theorem leads_of_marks {p : Progress} {r : Signal} (hsurveyed : v.before.Surveyed)
    (hslot : v.before.slots[v.index]? = some v.slot)
    (hreferences : ∀ r ∈ a'.references, InScript v.before.slots.length r)
    (hmarks : Marks a' (v.session (.action a')) v.result p) (hr : p.control = some r) :
    v.before.Leads v.index r := by
  have hnone (hcontrol : p.control = none) : v.before.Leads v.index r := by
    rw [hcontrol] at hr
    cases hr
  generalize v.result = result at hmarks
  cases hmarks with
  | invalid control iteration =>
    -- Nothing was executed; what the step requested at an earlier visit still leads somewhere.
    refine hsurveyed.charted v.index r ?_
    unfold Engine.signal?
    rw [hslot]
    exact control.symm.trans hr
  | failed control iteration => exact hnone control
  | lost why control iteration => exact hnone control
  | passed kind control iteration => exact hnone control
  | left l kind enough control iteration => exact hnone control
  | branched b kind r' request control iteration =>
    obtain rfl : r' = r := Option.some.inj (control.symm.trans hr)
    obtain ⟨hjumps, hback⟩ := Branch.references_of_request request
    constructor
    · intro hjump
      refine hreferences r'.target ?_
      rw [kind]
      exact hjumps hjump
    · intro hloop
      exact absurd hloop hback
  | repeated l kind stands before ending few control iteration =>
    obtain rfl : (⟨.loopBack, l.start⟩ : Signal) = r := Option.some.inj (control.symm.trans hr)
    have hstart : InScript v.before.slots.length l.start := by
      refine hreferences l.start ?_
      rw [kind]
      exact List.mem_singleton_self _
    have hposition : (v.session (.action a')).position = (v.index + 1 : Nat) := rfl
    rw [hposition] at before
    exact Engine.leads_of_found hsurveyed.actions hstart stands (by omega)

/-- The step of a visit is an enabled one of the surveyed steps. -/
theorem references_slot (hsurveyed : v.before.Surveyed)
    (hslot : v.before.slots[v.index]? = some v.slot) (hon : v.slot.enabled = true)
    (h : v.slot.work = .action a) : ∀ r ∈ a.references, InScript v.before.slots.length r := by
  intro r hr
  refine hsurveyed.references v.slot (List.mem_of_getElem? hslot) hon r ?_
  rw [h]
  exact hr

/-- After an attempt all requests still lead to steps of the script. -/
theorem charted_after (hsurveyed : v.before.Surveyed)
    (hslot : v.before.slots[v.index]? = some v.slot) (hon : v.slot.enabled = true) :
    v.after.Charted := by
  obtain ⟨a, h⟩ := hsurveyed.actions v.slot (List.mem_of_getElem? hslot)
  have hsame := map_asNew_after h
  cases ha : v.attempted with
  | false =>
    rw [after_of_not_attempted ha]
    exact hsurveyed.charted
  | true =>
    intro i r hr
    refine Engine.Leads.congr ?_ hsame
    by_cases hi : i = v.index
    · subst hi
      rcases comes h ha with ⟨-, -, hslots⟩ | ⟨a', p, -, -, href, hmarks, hslots⟩
      · refine hsurveyed.charted v.index r ?_
        unfold Engine.signal? at hr ⊢
        rwa [hslots] at hr
      · rw [Engine.signal?_eq_mark, mark_after_of_slots hslot hslots] at hr
        exact leads_of_marks hsurveyed hslot (href ▸ references_slot hsurveyed hslot hon h) hmarks hr
    · refine hsurveyed.charted i r ?_
      rw [Engine.signal?_eq_mark, mark_after_of_ne hi, ← Engine.signal?_eq_mark] at hr
      exact hr

/-- After the visit of a surveyed step, the steps are surveyed. -/
theorem surveyed_settled (hsurveyed : v.before.Surveyed)
    (hslot : v.before.slots[v.index]? = some v.slot) (hon : v.slot.enabled = true) :
    v.settled.Surveyed := by
  obtain ⟨a, h⟩ := hsurveyed.actions v.slot (List.mem_of_getElem? hslot)
  have hafter : v.after.Surveyed :=
    hsurveyed.of_same (map_asNew_after h) (charted_after hsurveyed hslot hon)
  have hsame : v.settled.slots.map Slot.asNew = v.after.slots.map Slot.asNew :=
    (map_asNew_settled h).trans (map_asNew_after h).symm
  exact hafter.of_same hsame (hafter.charted.congr v.map_mark_settled hsame)

/-- A visit that keeps to a script of `total` steps. -/
structure OnCourse (total : Nat) (v : Visit) : Prop where
  /-- Wherever a step has asked to go, there is a step. -/
  targets : ∀ i r, v.before.signal? i = some r ∨ v.after.signal? i = some r →
    r.transfer = .jump ∨ r.transfer = .loopBack → InScript total r.target
  /-- Wherever the attempted step refers to, there is a step. -/
  references : ∀ work, v.readied.1 = .ok work → ∀ r ∈ work.references, InScript total r
  /-- No position beyond the script is looked up: the attempt would not notice more steps. -/
  looks : ∀ work, v.readied.1 = .ok work → ∀ more,
    runIn ((v.session work).widened more) (Engine.guarded work) =
      ((runIn (v.session work) (Engine.guarded work)).1,
        (runIn (v.session work) (Engine.guarded work)).2.widened more)
  /-- Control is not lost for want of a step. -/
  fault : ∀ why, v.fault = some (.control why) → why.isMissing = false
  /-- A loop goes back to a start further up. -/
  loops : ∀ r, v.ok = true → v.request = some r → r.transfer = .loopBack →
    ∃ k s l, r.target = (k + 1 : Nat) ∧ v.landing = some k ∧ k < v.index ∧
      v.before.slots[k]? = some s ∧ s.work = .action (.loopStart l)

/-- An attempt loses control for want of a step at most when it refers to where there is none. -/
theorem isMissing_of_result (hsurveyed : v.before.Surveyed)
    (hslot : v.before.slots[v.index]? = some v.slot) (hon : v.slot.enabled = true)
    {why : Misrouting} (hresult : v.result = .error (.control why)) : why.isMissing = false := by
  obtain ⟨a, h⟩ := hsurveyed.actions v.slot (List.mem_of_getElem? hslot)
  have hspared (f : Fault) (hf : f.isRouting = false) (heq : f = .control why) :
      why.isMissing = false := by
    subst heq
    cases why with
    | other text => rfl
    | _ => cases hf
  cases ha : v.attempted with
  | false =>
    unfold result outcome at hresult
    rw [ha] at hresult
    obtain rfl := Fault.control.inj (Except.error.inj hresult)
    rfl
  | true =>
    rcases comes h ha with ⟨hfault, houtside, -⟩ | ⟨a', p, -, -, href, hmarks, -⟩
    · exact hspared _ houtside (Except.error.inj (hfault.symm.trans hresult))
    · rw [hresult] at hmarks
      cases hmarks with
      | lost hwhy control iteration =>
        obtain houtside | ⟨l, rfl, hkind | ⟨-, hbackward⟩⟩ := hwhy
        · exact hspared _ houtside rfl
        · -- The position of the start is in the script, so there is a step, of a wrong kind.
          have hstart : InScript v.before.slots.length l.start := by
            refine references_slot hsurveyed hslot hon h l.start ?_
            rw [← href]
            exact List.mem_singleton_self _
          have hfound := expectKind_of_inScript LoopEnd.startTag
            (v.before.length_kinds ▸ hstart)
          have hsession : (v.session (.action (.loopEnd l))).kinds = some v.before.kinds := rfl
          rw [hsession] at hkind
          obtain ⟨hok, -⟩ | ⟨kind, hwrong⟩ := hfound
          · rw [hok] at hkind
            cases hkind
          · rw [hwrong] at hkind
            obtain rfl := Fault.control.inj (Except.error.inj hkind)
            rfl
        · obtain rfl := Fault.control.inj hbackward
          rfl

/-- An action that was made ready refers to steps of the script. -/
theorem references_readied (hsurveyed : v.before.Surveyed)
    (hslot : v.before.slots[v.index]? = some v.slot) (hon : v.slot.enabled = true) {work : Work}
    (hwork : v.readied.1 = .ok work) :
    ∃ a', work = .action a' ∧ ∀ r ∈ a'.references, InScript v.before.slots.length r := by
  obtain ⟨a, h⟩ := hsurveyed.actions v.slot (List.mem_of_getElem? hslot)
  have hexpand : (Engine.expandWork v.slot.work _ _).1 = .ok work := hwork
  rw [h] at hexpand
  obtain ⟨a', rfl, -, href⟩ := Engine.steering_of_expandWork hexpand
  exact ⟨a', rfl, href ▸ references_slot hsurveyed hslot hon h⟩

/-- A request that leads to a step of the script is not astray. -/
theorem course_of_leads {e : Engine} {index : Nat} {r : Signal} (h : e.Leads index r)
    (target : Int) : course e.slots.length index (some r) ≠ .astray target := by
  obtain ⟨transfer, place⟩ := r
  cases transfer with
  | next => nofun
  | skipNext => nofun
  | exit => nofun
  | jump =>
    have hin := Engine.outside_eq_false_iff.mpr (h.inScript (.inl rfl))
    simp [course, hin]
  | loopBack =>
    have hin := Engine.outside_eq_false_iff.mpr (h.inScript (.inr rfl))
    simp [course, hin]

/-- Where every request leads to a step of the script, control is not lost for want of a step. -/
theorem isMissing_of_fault (hsurveyed : v.before.Surveyed)
    (hslot : v.before.slots[v.index]? = some v.slot) (hon : v.slot.enabled = true)
    {why : Misrouting} (hwhy : v.fault = some (.control why)) : why.isMissing = false := by
  unfold fault at hwhy
  rcases hresult : v.result with f | _ | _
  · rw [hresult] at hwhy
    obtain rfl := Option.some.inj hwhy
    exact isMissing_of_result hsurveyed hslot hon hresult
  · rw [hresult] at hwhy
    cases hwhy
  · rw [hresult] at hwhy
    dsimp only at hwhy
    split at hwhy
    · next target hastray =>
      -- A request of a step that succeeded leads to a step, so it is not astray.
      exfalso
      cases hr : v.request with
      | none =>
        rw [hr] at hastray
        cases hastray
      | some r =>
        have hleads := charted_after hsurveyed hslot hon v.index r hr
        rw [hr] at hastray
        exact course_of_leads hleads target hastray
    · cases hwhy

/-- Where a request of a loop leads to a start further up, the run goes on there. -/
theorem landing_of_leads {r : Signal} (hleads : v.after.Leads v.index r) (hok : v.ok = true)
    (hr : v.request = some r) (hback : r.transfer = .loopBack) :
    ∃ k s l, r.target = (k + 1 : Nat) ∧ v.landing = some k ∧ k < v.index ∧
      v.after.slots[k]? = some s ∧ s.work = .action (.loopStart l) := by
  obtain ⟨k, s, l, htarget, hlt, hs, hl⟩ := hleads.loopBack hback
  have hin := Engine.outside_eq_false_iff.mpr (hleads.inScript (.inr hback))
  have hresult : v.result = .ok true := by
    unfold ok at hok
    rcases hresult : v.result with f | _ | _
    · rw [hresult] at hok
      cases hok
    · rw [hresult] at hok
      cases hok
    · rfl
  refine ⟨k, s, l, htarget, landing_of_ok hresult ?_, hlt, hs, hl⟩
  obtain ⟨transfer, place⟩ := r
  dsimp only at hback htarget hin
  subst hback
  rw [hr]
  simp only [course, hin]
  rw [htarget]
  rfl

/-- The visit of a surveyed step keeps to the script. -/
theorem onCourse (hsurveyed : v.before.Surveyed)
    (hslot : v.before.slots[v.index]? = some v.slot) (hon : v.slot.enabled = true) :
    v.OnCourse v.before.slots.length := by
  obtain ⟨a, h⟩ := hsurveyed.actions v.slot (List.mem_of_getElem? hslot)
  have hcharted := charted_after hsurveyed hslot hon
  refine ⟨?_, ?_, ?_, fun why => isMissing_of_fault hsurveyed hslot hon, ?_⟩
  · have hlength : v.after.slots.length = v.before.slots.length := v.moved_after.length
    rintro i r (hr | hr) htransfer
    · exact (hsurveyed.charted i r hr).inScript htransfer
    · exact hlength ▸ (hcharted i r hr).inScript htransfer
  · intro work hwork
    obtain ⟨a', rfl, href⟩ := references_readied hsurveyed hslot hon hwork
    exact href
  · intro work hwork more
    obtain ⟨a', rfl, href⟩ := references_readied hsurveyed hslot hon hwork
    have hkinds : (v.session (.action a')).kinds = some v.before.kinds := rfl
    exact guarded_widened hkinds (v.before.length_kinds.symm ▸ href) more
  · intro r hok hr hback
    obtain ⟨k, s, l, htarget, hlanding, hlt, hs, hl⟩ :=
      landing_of_leads (hcharted v.index r hr) hok hr hback
    obtain ⟨t, ht, hwork, -⟩ := exists_of_map_asNew (map_asNew_after h) hs
    exact ⟨k, t, l, htarget, hlanding, hlt, ht, hwork.symm.trans hl⟩

end Visit

namespace Passage

variable {index : Nat} {success : Bool} {e e' : Engine} {vs : List Visit} {ending : Ending}

/-- Throughout a run of surveyed steps, the steps are surveyed. -/
theorem surveyed (h : Passage index success e vs ending e') (hsurveyed : e.Surveyed) :
    e'.Surveyed ∧ ∀ v ∈ vs, v.before.Surveyed ∧ v.before.slots.length = e.slots.length ∧
      v.before.slots[v.index]? = some v.slot ∧ v.slot.enabled = true := by
  let Kept (e' : Engine) : Prop := e'.Surveyed ∧ e'.slots.length = e.slots.length
  have hidle {f f' : Engine} (hf : f.Idles f') (h : Kept f) : Kept f' := by
    obtain ⟨hsurveyed, hlength⟩ := h
    have hslots := hf.slots_eq
    have hmarks : f'.slots.map Slot.mark = f.slots.map Slot.mark := by rw [hslots]
    have hsame : f'.slots.map Slot.asNew = f.slots.map Slot.asNew := by rw [hslots]
    exact ⟨hsurveyed.of_same hsame (hsurveyed.charted.congr hmarks hsame), hslots ▸ hlength⟩
  have hvisit (v : Visit) (hslot : v.before.slots[v.index]? = some v.slot)
      (hon : v.slot.enabled = true) (hbefore : Kept v.before) : Kept v.settled :=
    ⟨Visit.surveyed_settled hbefore.1 hslot hon, v.moved_settled.length.trans hbefore.2⟩
  obtain ⟨hend, hall⟩ := h.invariant hidle hvisit ⟨hsurveyed, rfl⟩
  refine ⟨hend.1, fun v hv => ?_⟩
  obtain ⟨⟨hbefore, hlength⟩, hslot, hon⟩ := hall v hv
  exact ⟨hbefore, hlength, hslot, hon⟩

end Passage

/-! ## Runs -/

namespace Engine

/-- An engine whose enabled steps refer to steps of the script is surveyed when it was made ready.
-/
theorem surveyed_prepare {e : Engine} (hacts : e.ActsOnly)
    (hreferring : Referring e.slots.length e.slots) : e.prepare.1 = none ∧ e.prepare.2.Surveyed := by
  have hprepare := prepare_of_referring hreferring
  have hslots := slots_prepare hprepare
  refine ⟨hprepare, hacts.prepare, ?_, ?_⟩
  · rw [hslots, e.length_clearedSlots]
    exact (e.referring_clearedSlots_iff _).mpr hreferring
  · -- No request is left of an earlier run.
    intro i r hr
    unfold signal? at hr
    rw [hslots, getElem?_clearedSlots] at hr
    cases hs : e.slots[i]? with
    | none =>
      rw [hs] at hr
      cases hr
    | some s =>
      rw [hs] at hr
      cases hr

/-- The run of some steps is turned down: none of them is executed, who watches is told of nothing
but the end, and the run fails for the given reason. -/
structure TurnedDown (e : Engine) (slots : Option (List Slot)) (why : Misrouting) : Prop where
  /-- It fails, if the log accepts entries. -/
  result : (e.run slots).1 = e.desk.log.ready.map fun _ => false
  /-- No step is reached. -/
  trail : (e.begun slots).trail = []
  /-- No step is executed. -/
  visits : (e.run slots).2.slots.map (fun s => s.progress.visits) =
    (slots.getD e.slots).map fun s => s.progress.visits
  /-- No step is notified. -/
  notices : e.desk.log.ready = .ok () → (e.run slots).2.desk.notices =
    e.desk.notices ++ e.notes [(e.begun slots).ended.2.completion false]
  /-- The reason is the first error. -/
  firstError : e.desk.log.ready = .ok () → (e.run slots).2.firstError = some why.message

/-- A run whose preparation fails is turned down. -/
theorem turnedDown_of_prepare {e : Engine} (h : e.running = false) {slots : Option (List Slot)}
    {why : Misrouting} (hwhy : (e.begun slots).prepare.1 = some (.control why)) :
    e.TurnedDown slots why := by
  obtain ⟨htrail, hended⟩ := trail_of_problem hwhy
  have hvisits : (e.begun slots).prepare.2.slots.map (fun s => s.progress.visits) =
      (slots.getD e.slots).map fun s => s.progress.visits :=
    (e.begun slots).map_prepare (fun _ _ => rfl) fun _ _ => rfl
  cases hready : e.desk.log.ready with
  | error f =>
    have hrun := run_of_not_ready h hready slots
    have habsurd : e.desk.log.ready ≠ .ok () := by
      rw [hready]
      nofun
    refine ⟨?_, htrail, ?_, fun hok => absurd hok habsurd, fun hok => absurd hok habsurd⟩
    · rw [hrun, hready]
      rfl
    · rw [hrun]
      rfl
  | ok u =>
    have hresult : (e.run slots).1 = .ok false := by
      rw [run_eq h hready, hended]
      rfl
    have hreturned := run_returned h (Prod.ext hresult rfl)
    have hnotices := ((e.steady_begun slots).gain hreturned.gains).notices
    have hfirst := hreturned.firstError
    have hlost : (e.begun slots).lostControl = some (.control why) := by
      unfold lostControl
      rw [hwhy]
    rw [htrail] at hnotices hfirst
    refine ⟨?_, htrail, ?_, fun _ => hnotices, fun _ => ?_⟩
    · rw [hresult, hready]
      rfl
    · rw [hreturned.slots, hended]
      exact hvisits
    · rw [hfirst, hlost]
      rfl

end Engine

/-- When some enabled step refers to a position outside of the script, an idle engine turns the run
down because of the first such step. Otherwise every visit of the run keeps to the script, and so do
the requests that are left in the end; control is never lost for want of a step. -/
theorem run_routes {e : Engine} {slots : Option (List Slot)} (h : e.running = false)
    (hacts : ∀ s ∈ slots.getD e.slots, ∃ a, s.work = .action a) :
    (¬ Engine.Referring (slots.getD e.slots).length (slots.getD e.slots) →
        ∃ index s target, Engine.FirstStray (slots.getD e.slots) index s target ∧
          e.TurnedDown slots
            (.badReference (index + 1 : Nat) s.name target (slots.getD e.slots).length)) ∧
      (Engine.Referring (slots.getD e.slots).length (slots.getD e.slots) →
        (∀ v ∈ (e.begun slots).trail, v.OnCourse (slots.getD e.slots).length) ∧
          (e.begun slots).ended.2.Charted ∧
          ∀ why, (e.begun slots).lostControl = some (.control why) → why.isMissing = false) := by
  constructor
  · intro hstray
    obtain ⟨hreferring, -⟩ | ⟨index, s, target, hfirst, hwhy⟩ := (e.begun slots).prepare_fst
    · exact absurd hreferring hstray
    · exact ⟨index, s, target, hfirst, Engine.turnedDown_of_prepare h hwhy⟩
  · intro hreferring
    obtain ⟨hprepare, hsurveyed⟩ := Engine.surveyed_prepare (e := e.begun slots) hacts hreferring
    have hlength : (e.begun slots).prepare.2.slots.length = (slots.getD e.slots).length :=
      (e.begun slots).length_prepare
    obtain ⟨hend, hall⟩ := (Engine.passage_trail hprepare).surveyed hsurveyed
    have hcourse : ∀ v ∈ (e.begun slots).trail, v.OnCourse (slots.getD e.slots).length := by
      intro v hv
      obtain ⟨hv, hlen, hslot, hon⟩ := hall v hv
      exact (hlen.trans hlength) ▸ Visit.onCourse hv hslot hon
    refine ⟨hcourse, hend.charted, ?_⟩
    intro why hwhy
    unfold Engine.lostControl at hwhy
    rw [hprepare] at hwhy
    obtain ⟨v, hv, hfault⟩ := Option.bind_eq_some_iff.mp hwhy
    exact (hcourse v (List.mem_of_getLast? hv)).fault why hfault

/-- Steps with a jump over a step into a loop that goes around twice. -/
def detour : List Step :=
  [⟨true, false, .branch ⟨"a", "a", .equal, .jump, 3⟩⟩, ⟨true, false, .assign ⟨"n", "1", .set⟩⟩,
    ⟨true, false, .loopStart ⟨""⟩⟩, ⟨true, false, .loopEnd ⟨3, .maxIterations, "", "", 2⟩⟩]

/-- The same steps with two more that refer to positions outside of the script. -/
def blindAlley : List Step :=
  detour ++ [⟨true, false, .loopEnd ⟨9, .always, "", "", 1⟩⟩,
    ⟨true, false, .branch ⟨"a", "a", .equal, .jump, 0⟩⟩]

/-- An idle engine with some steps, of which it carries out at most a hundred. -/
def idleEngine (steps : List Step) : Engine := .new .blank (steps.map .ofStep) false 100 .record

/-- A run that jumps and goes back, and one that is turned down. -/
theorem run_routes_detour :
    ((idleEngine detour).begun none).trail.map Visit.index = [0, 2, 3, 2, 3] ∧
      (∀ v ∈ ((idleEngine detour).begun none).trail, v.OnCourse 4) ∧
      ∃ index s target, Engine.FirstStray (idleEngine blindAlley).slots index s target ∧
        (idleEngine blindAlley).TurnedDown none
          (.badReference (index + 1 : Nat) s.name target 6) := by
  refine ⟨by decide +kernel, ?_, ?_⟩
  · have hacts : ∀ s ∈ Option.getD none (idleEngine detour).slots, ∃ a, s.work = .action a :=
      actions_of_steps detour
    refine ((run_routes rfl hacts).2 ?_).1
    unfold Engine.Referring InScript
    decide
  · have hacts : ∀ s ∈ Option.getD none (idleEngine blindAlley).slots, ∃ a, s.work = .action a :=
      actions_of_steps blindAlley
    refine (run_routes rfl hacts).1 ?_
    unfold Engine.Referring InScript
    decide

end Deskwork
