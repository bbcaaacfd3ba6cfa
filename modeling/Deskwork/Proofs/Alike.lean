/-
# States That Look Alike

Some parts of a state do not matter for what happens next. Two states look alike when they are the
same without those parts, and two ways on from there look alike when they find the same and lead to
states that look alike again (`Alike`). At the desk, the talk does not matter for the expansion of
templates (`Desk.alike_expandContent`).
-/
import Deskwork.Proofs.Desk

namespace Deskwork

/-! ## Alike -/

section

variable {σ τ α : Type} {φ : σ → τ}

/-- Two ways on look alike through `φ`: from states that look alike through it they find the same and
lead to states that look alike through it. -/
def Alike (φ : σ → τ) (f g : σ → α × σ) : Prop :=
  ∀ s t, φ s = φ t → (f s).1 = (g t).1 ∧ φ (f s).2 = φ (g t).2

/-- What goes on in the same way when only the part that matters is kept goes on alike. -/
theorem Alike.of_image {φ : σ → σ} {f : σ → α × σ} (h : ∀ s, (f (φ s)).1 = (f s).1)
    (h' : ∀ s, φ (f (φ s)).2 = φ (f s).2) : Alike φ f f := by
  intro s t hst
  rw [← h s, ← h' s, ← h t, ← h' t, hst]
  exact ⟨rfl, rfl⟩

theorem Alike.pure (a : α) : Alike φ (fun s => (a, s)) (fun s => (a, s)) :=
  fun _ _ h => ⟨rfl, h⟩

end

/-! ## Templates -/

namespace Desk

theorem alike_consult : Alike hushed consult consult := by
  refine .of_image (fun d => ?_) fun d => ?_
  · obtain ⟨m, log, ⟨provider, known, logs⟩⟩ := d
    cases provider <;> rfl
  · obtain ⟨m, log, ⟨provider, known, logs⟩⟩ := d
    cases provider with
    | none => exact hushed_hushed _
    | given bindings => exact hushed_record _ _
    | failing why => exact hushed_record _ _
    | settings path =>
      unfold consult hushed
      simp

theorem alike_customVariables : Alike hushed customVariables customVariables := by
  intro d d' h
  have hexpander : d.expander = d'.expander :=
    show d.hushed.expander = d'.hushed.expander by rw [h]
  obtain ⟨hasked, hafter⟩ := alike_consult d d' h
  unfold customVariables
  rw [hexpander]
  cases d'.expander.known with
  | some bindings => exact ⟨rfl, h⟩
  | none =>
    dsimp only
    generalize d.consult = p at hasked hafter ⊢
    generalize d'.consult = q at hasked hafter ⊢
    obtain ⟨r, c⟩ := p
    obtain ⟨r', c'⟩ := q
    obtain rfl : r = r' := hasked
    have hremembers (x y : Desk) (hxy : x.hushed = y.hushed) (known : Option _) :
        ({ x with expander := { x.expander with known := known } } : Desk).hushed =
          ({ y with expander := { y.expander with known := known } } : Desk).hushed :=
      congrArg (fun z : Desk => { z with expander := { z.expander with known := known } }) hxy
    cases r with
    | ok bindings => exact ⟨rfl, hremembers c c' hafter _⟩
    | error f =>
      have hlogs : c.expander.logs = c'.expander.logs :=
        show c.hushed.expander.logs = c'.hushed.expander.logs by rw [hafter]
      refine ⟨rfl, hremembers _ _ ?_ _⟩
      dsimp only
      rw [hlogs]
      split
      · unfold warn
        rw [hushed_logged, hushed_logged]
        exact hafter
      · exact hafter

variable (bindings : List (String × Scalar))

theorem alike_expand (text : String) :
    Alike hushed (fun d => d.expand bindings text) fun d => d.expand bindings text := by
  intro d d' h
  have hvalues : d.standardValues d.machine.wall = d'.standardValues d'.machine.wall :=
    show d.hushed.standardValues d.hushed.machine.wall =
      d'.hushed.standardValues d'.hushed.machine.wall by rw [h]
  obtain ⟨hcustom, hafter⟩ := alike_customVariables d d' h
  dsimp only
  unfold expand
  rw [hvalues]
  split
  · exact ⟨rfl, h⟩
  · split
    · exact ⟨rfl, h⟩
    · dsimp only
      rw [hcustom]
      exact ⟨rfl, hafter⟩

theorem alike_expandAll (texts : List String) :
    Alike hushed (fun d => d.expandAll bindings texts) fun d => d.expandAll bindings texts := by
  induction texts with
  | nil => exact .pure _
  | cons text rest ih =>
    intro d d' h
    obtain ⟨hfirst, hafter⟩ := alike_expand bindings text d d' h
    dsimp only at hfirst hafter ⊢
    rw [expandAll, expandAll]
    generalize d.expand bindings text = p at hfirst hafter ⊢
    generalize d'.expand bindings text = q at hfirst hafter ⊢
    obtain ⟨r, c⟩ := p
    obtain ⟨r', c'⟩ := q
    obtain rfl : r = r' := hfirst
    cases r with
    | error f => exact ⟨rfl, hafter⟩
    | ok expanded =>
      obtain ⟨hrest, hend⟩ := ih c c' hafter
      exact ⟨congrArg (Except.map (expanded :: ·)) hrest, hend⟩

/-- The talk does not matter for the expansion of what stands in a field. -/
theorem alike_expandContent (c : Template.Content) :
    Alike hushed (fun d => d.expandContent bindings c) fun d => d.expandContent bindings c := by
  intro d d' h
  cases c with
  | text s =>
    obtain ⟨hfound, hafter⟩ := alike_expand bindings s d d' h
    exact ⟨congrArg (Except.map Template.Content.text) hfound, hafter⟩
  | texts items =>
    obtain ⟨hfound, hafter⟩ := alike_expandAll bindings items d d' h
    exact ⟨congrArg (Except.map Template.Content.texts) hfound, hafter⟩
  | other => exact ⟨rfl, h⟩

end Desk

end Deskwork
