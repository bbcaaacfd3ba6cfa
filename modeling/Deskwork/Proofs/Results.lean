/-
# Results

When programs that may fail have a result.
-/
import Deskwork.Fault
import Mathlib.Data.List.Forall2

namespace Deskwork

variable {ε α β : Type}

/-- Two programs one after the other have a result when each of them has one. -/
theorem bind_eq_ok_iff {x : Except ε α} {k : α → Except ε β} {b : β} :
    (x >>= k) = .ok b ↔ ∃ a, x = .ok a ∧ k a = .ok b := by
  cases x with
  | error f => simp [bind, Except.bind]
  | ok a => simp [bind, Except.bind]

/-- Of two programs one after the other, the first fails, or it has a result and the second fails. -/
theorem bind_eq_error_iff {x : Except ε α} {k : α → Except ε β} {f : ε} :
    (x >>= k) = .error f ↔ x = .error f ∨ ∃ a, x = .ok a ∧ k a = .error f := by
  cases x with
  | error f => simp [bind, Except.bind]
  | ok a => simp [bind, Except.bind]

/-- What is made of a result is there when the result is. -/
theorem map_eq_ok_iff {x : Except ε α} {g : α → β} {b : β} :
    (g <$> x) = .ok b ↔ ∃ a, x = .ok a ∧ g a = b := by
  cases x with
  | error f => simp [Functor.map, Except.map]
  | ok a => simp [Functor.map, Except.map]

/-- Rewording a fault leaves a result alone. -/
theorem mapError_eq_ok_iff {ε' : Type} {x : Except ε α} {g : ε → ε'} {a : α} :
    x.mapError g = .ok a ↔ x = .ok a := by
  cases x with
  | error f => constructor <;> rintro ⟨⟩
  | ok b => constructor <;> (rintro ⟨⟩; rfl)

/-- A fault is reworded when there is one. -/
theorem mapError_eq_error_iff {ε' : Type} {x : Except ε α} {g : ε → ε'} {f : ε'} :
    x.mapError g = .error f ↔ ∃ e, x = .error e ∧ g e = f := by
  cases x with
  | error e => simp [Except.mapError]
  | ok b => simp [Except.mapError]

/-- A program for each item of a list has results when each of them has one, and these in order. -/
theorem mapM_eq_ok_iff {f : α → Except ε β} {as : List α} {bs : List β} :
    as.mapM f = .ok bs ↔ List.Forall₂ (fun a b => f a = .ok b) as bs := by
  induction as generalizing bs with
  | nil => cases bs <;> simp [pure, Except.pure]
  | cons a as ih =>
    rw [List.mapM_cons, bind_eq_ok_iff, List.forall₂_cons_left_iff]
    constructor
    · rintro ⟨b, first, h⟩
      obtain ⟨bs, others, h⟩ := bind_eq_ok_iff.mp h
      cases h
      exact ⟨b, bs, first, ih.mp others, rfl⟩
    · rintro ⟨b, bs, first, others, rfl⟩
      exact ⟨b, first, bind_eq_ok_iff.mpr ⟨bs, ih.mpr others, rfl⟩⟩

/-- Otherwise one of them fails with the fault of the whole. -/
theorem exists_of_mapM_eq_error {f : α → Except ε β} {as : List α} {e : ε}
    (h : as.mapM f = .error e) : ∃ a ∈ as, f a = .error e := by
  induction as with
  | nil => cases h
  | cons a as ih =>
    rw [List.mapM_cons, bind_eq_error_iff] at h
    rcases h with first | ⟨b, -, h⟩
    · exact ⟨a, List.mem_cons_self, first⟩
    · rcases bind_eq_error_iff.mp h with others | ⟨bs, -, h⟩
      · obtain ⟨a', mem, failed⟩ := ih others
        exact ⟨a', List.mem_cons_of_mem a mem, failed⟩
      · cases h

/-- What two lists of three have in common item by item, the outer ones have by way of the middle
one. -/
theorem forall₂_comp {γ : Type} {R : α → β → Prop} {S : β → γ → Prop} {as : List α} {bs : List β}
    {cs : List γ} (h : List.Forall₂ R as bs) (h' : List.Forall₂ S bs cs) :
    List.Forall₂ (fun a c => ∃ b, R a b ∧ S b c) as cs := by
  induction h generalizing cs with
  | nil =>
    cases h'
    exact .nil
  | cons first _ ih =>
    cases h' with
    | cons second others => exact .cons ⟨_, first, second⟩ (ih others)

end Deskwork
