/-
# References

A step may refer to positions in its script. Before a run the references of the enabled steps are
looked at once, and the first one that leads out of the script turns the run down (`prepare_fst`).
A step that is looked up at a position in the script is found, whatever stands beyond the script
(`kindAt_append`).
-/
import Deskwork.Proofs.Run.Whole

namespace Deskwork

open StepM

/-! ## Positions in a script -/

/-- There is a step at a position of a script of `total` steps. -/
def InScript (total : Nat) (position : Int) : Prop := 1 ≤ position ∧ position ≤ total

namespace Engine

theorem outside_eq_false_iff {total : Nat} {position : Int} :
    outside total position = false ↔ InScript total position := by
  unfold outside InScript
  simp

theorem outside_eq_true_iff {total : Nat} {position : Int} :
    outside total position = true ↔ ¬ InScript total position := by
  rw [← outside_eq_false_iff, Bool.not_eq_false]

/-- The enabled slots refer to positions in a script of `total` steps only. -/
def Referring (total : Nat) (slots : List Slot) : Prop :=
  ∀ s ∈ slots, s.enabled = true → ∀ r ∈ s.work.references, InScript total r

/-- The slot at an index is the first enabled one that refers to a position outside of the script,
and the position is the first one that it refers to. -/
structure FirstStray (slots : List Slot) (index : Nat) (s : Slot) (target : Int) : Prop where
  /-- It stands there. -/
  stands : slots[index]? = some s
  /-- It is enabled. -/
  enabled : s.enabled = true
  /-- It refers to the position, and the position lies outside of the script. -/
  stray : s.work.references.find? (outside slots.length) = some target
  /-- The enabled slots before it refer to positions in the script. -/
  first : Referring slots.length (slots.take index)

/-- The search for a reference that leads out of the script finds the first one, if there is one. -/
theorem badReference_spec (total index : Nat) (rest : List Slot) :
    match badReference total index rest with
    | none => Referring total rest
    | some (j, s, target) => ∃ k, j = index + k ∧ rest[k]? = some s ∧ s.enabled = true ∧
        s.work.references.find? (outside total) = some target ∧
        Referring total (rest.take k) := by
  -- The search goes along the slots, and the index with it.
  induction rest generalizing index with
  | nil =>
    intro s hs
    cases hs
  | cons s rest ih =>
    rw [badReference]
    cases hfound : if s.enabled then s.work.references.find? (outside total) else none with
    | some target =>
      dsimp only
      by_cases hs : s.enabled = true
      · rw [if_pos hs] at hfound
        refine ⟨0, rfl, rfl, hs, hfound, ?_⟩
        intro u hu
        cases hu
      · rw [if_neg hs] at hfound
        cases hfound
    | none =>
      dsimp only
      have hfront : s.enabled = true → ∀ r ∈ s.work.references, InScript total r := by
        intro hs r hr
        rw [if_pos hs] at hfound
        have hr := List.find?_eq_none.mp hfound r hr
        exact outside_eq_false_iff.mp (by simpa using hr)
      have hrest := ih (index + 1)
      generalize badReference total (index + 1) rest = found at hrest
      rcases found with _ | ⟨j, t, target⟩
      · intro u hu
        rcases List.mem_cons.mp hu with rfl | hu
        · exact hfront
        · exact hrest u hu
      · obtain ⟨k, hj, ht, henabled, hstray, hfirst⟩ := hrest
        refine ⟨k + 1, by omega, ht, henabled, hstray, ?_⟩
        intro u hu
        rcases List.mem_cons.mp hu with rfl | hu
        · exact hfront
        · exact hfirst u hu

/-! ## Preparation -/

/-- Clearing the slots leaves their references alone. -/
theorem referring_clearedSlots (e : Engine) (total k : Nat) :
    Referring total (e.clearedSlots.take k) ↔ Referring total (e.slots.take k) := by
  have hcleared (i : Nat) : (e.clearedSlots.take k)[i]? =
      ((e.slots.take k)[i]?).map (Slot.cleared (i + 1)) := by
    rw [List.getElem?_take, List.getElem?_take, getElem?_clearedSlots]
    split
    · rfl
    · rfl
  constructor
  · intro h s hs
    obtain ⟨i, hi⟩ := List.mem_iff_getElem?.mp hs
    refine h (s.cleared (i + 1)) (List.mem_of_getElem? (i := i) ?_)
    rw [hcleared, hi]
    rfl
  · intro h s hs
    obtain ⟨i, hi⟩ := List.mem_iff_getElem?.mp hs
    rw [hcleared, Option.map_eq_some_iff] at hi
    obtain ⟨t, ht, rfl⟩ := hi
    exact h t (List.mem_of_getElem? ht)

theorem length_clearedSlots (e : Engine) : e.clearedSlots.length = e.slots.length :=
  List.length_mapIdx

theorem referring_clearedSlots_iff (e : Engine) (total : Nat) :
    Referring total e.clearedSlots ↔ Referring total e.slots := by
  have htake := e.referring_clearedSlots total e.slots.length
  rwa [List.take_of_length_le (Nat.le_of_eq e.length_clearedSlots), List.take_length] at htake

/-- An engine cannot be made ready exactly because of the first stray reference of its slots. -/
theorem prepare_fst (e : Engine) :
    (Referring e.slots.length e.slots ∧ e.prepare.1 = none) ∨
      ∃ index s target, FirstStray e.slots index s target ∧ e.prepare.1 =
        some (.control (.badReference (index + 1 : Nat) s.name target e.slots.length)) := by
  have hspec := badReference_spec e.slots.length 0 e.clearedSlots
  rw [e.prepare_eq]
  generalize badReference e.slots.length 0 e.clearedSlots = found at hspec
  rcases found with _ | ⟨j, t, target⟩
  · left
    exact ⟨(e.referring_clearedSlots_iff _).mp hspec, rfl⟩
  · right
    obtain ⟨k, hj, ht, henabled, hstray, hfirst⟩ := hspec
    rw [getElem?_clearedSlots, Option.map_eq_some_iff] at ht
    obtain ⟨s, hs, rfl⟩ := ht
    obtain rfl : j = k := by omega
    exact ⟨j, s, target, ⟨hs, henabled, hstray, (e.referring_clearedSlots _ _).mp hfirst⟩, rfl⟩

/-- An engine whose enabled slots refer to positions in its script only can be made ready. -/
theorem prepare_of_referring {e : Engine} (h : Referring e.slots.length e.slots) :
    e.prepare.1 = none := by
  obtain ⟨-, hnone⟩ | ⟨index, s, target, hstray, -⟩ := e.prepare_fst
  · exact hnone
  · exfalso
    have htarget := List.mem_of_find?_eq_some hstray.stray
    have hin := h s (List.mem_of_getElem? hstray.stands) hstray.enabled target htarget
    exact outside_eq_true_iff.mp (List.find?_some hstray.stray) hin

/-- Preparation keeps what depends neither on the last error nor on what is cleared. -/
theorem map_prepare {α : Type} {f : Slot → α} (herror : ∀ m s, f (withError m s) = f s)
    (hcleared : ∀ i s, f (Slot.cleared i s) = f s) (e : Engine) :
    e.prepare.2.slots.map f = e.slots.map f := by
  have hslots : e.clearedSlots.map f = e.slots.map f := by
    refine List.ext_getElem? fun i => ?_
    rw [List.getElem?_map, List.getElem?_map, getElem?_clearedSlots, Option.map_map]
    congr 1
    funext s
    exact hcleared (i + 1) s
  rw [e.prepare_eq]
  split
  · exact hslots
  · exact (map_modifySlot herror _ _ _).trans hslots

end Engine

/-! ## Looking steps up -/

namespace StepM

/-- The kind that is found at a position in a script. -/
theorem kindAt_of_inScript {position : Int} {kinds : List String}
    (h : InScript kinds.length position) (more : List String) :
    ∃ kind, kinds[position.toNat - 1]? = some kind ∧
      kindAt position (some (kinds ++ more)) = .ok kind := by
  obtain ⟨hpos, hle⟩ := h
  have hlt : position.toNat - 1 < kinds.length := by omega
  refine ⟨kinds[position.toNat - 1], List.getElem?_eq_getElem hlt, ?_⟩
  unfold kindAt
  dsimp only
  rw [if_pos hpos, List.getElem?_append_left hlt, List.getElem?_eq_getElem hlt]

/-- A step in the script is found whatever stands beyond the script. -/
theorem kindAt_append {position : Int} {kinds : List String} (h : InScript kinds.length position)
    (more : List String) :
    kindAt position (some (kinds ++ more)) = kindAt position (some kinds) := by
  obtain ⟨kind, hkind, hmore⟩ := kindAt_of_inScript h more
  obtain ⟨kind', hkind', hnone⟩ := kindAt_of_inScript h []
  rw [hkind] at hkind'
  obtain rfl := Option.some.inj hkind'
  rw [List.append_nil] at hnone
  rw [hmore, hnone]

/-- When the step at a position in the script is looked up, only its kind may be wrong. -/
theorem expectKind_of_inScript {position : Int} {kinds : List String} (expected : String)
    (h : InScript kinds.length position) :
    (expectKind position (some expected) (some kinds) = .ok expected ∧
        kinds[position.toNat - 1]? = some expected) ∨
      ∃ kind, expectKind position (some expected) (some kinds) =
        .error (.control (.wrongKind position kind expected)) := by
  obtain ⟨kind, hkind, hat⟩ := kindAt_of_inScript h []
  rw [List.append_nil] at hat
  have hexpect : expectKind position (some expected) (some kinds) =
      if kind = expected then .ok kind
      else .error (.control (.wrongKind position kind expected)) := by
    unfold expectKind
    rw [hat]
    rfl
  rw [hexpect]
  by_cases hsame : kind = expected
  · left
    rw [if_pos hsame, hsame]
    exact ⟨rfl, hsame ▸ hkind⟩
  · right
    rw [if_neg hsame]
    exact ⟨kind, rfl⟩

/-- Looking a step up fails for want of an engine or a step, or because the step is of a wrong kind.
-/
theorem expectKind_eq_error {position : Int} {expected : Option String}
    {kinds : Option (List String)} {f : Fault} (h : expectKind position expected kinds = .error f) :
    f = .control .noEngine ∨ (∃ count, f = .control (.noSuchStep position count)) ∨
      ∃ kind wanted, f = .control (.wrongKind position kind wanted) := by
  unfold expectKind at h
  cases hkind : kindAt position kinds with
  | error g =>
    rw [hkind] at h
    obtain rfl := Except.error.inj h
    unfold kindAt at hkind
    split at hkind
    · exact .inl (Except.error.inj hkind).symm
    · split at hkind
      · cases hkind
      · exact .inr (.inl ⟨_, (Except.error.inj hkind).symm⟩)
  | ok kind =>
    rw [hkind] at h
    cases expected with
    | none => cases h
    | some wanted =>
      by_cases hsame : kind = wanted
      · have hok : (if kind = wanted then Except.ok kind
          else .error (.control (.wrongKind position kind wanted))) = Except.error f := h
        rw [if_pos hsame] at hok
        cases hok
      · have hwrong : (if kind = wanted then Except.ok kind
          else .error (.control (.wrongKind position kind wanted))) = Except.error f := h
        rw [if_neg hsame] at hwrong
        exact .inr (.inr ⟨kind, wanted, (Except.error.inj hwrong).symm⟩)

end StepM

end Deskwork
