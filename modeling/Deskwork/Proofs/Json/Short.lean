/-
# Numbers That Are Not Too Long

A value is short when none of its whole numbers has more digits than a numeral may have. Every value
that is read from a text is short (`Value.short_of_read`), because the reader counts the digits.
-/
import Deskwork.Json.Reader
import Deskwork.Proofs.Number.Exact
import Deskwork.Proofs.Results
import Deskwork.Proofs.Tables
import Mathlib.Data.List.TakeWhile
import Mathlib.Tactic.SplitIfs

namespace Deskwork

open Deskwork.Number

/-! ## Short values -/

/-- A number, if it is a whole one, does not have too many digits. -/
def Scalar.Short : Scalar → Prop
  | .int n => n.natAbs < 10 ^ digitLimit
  | _ => True

/-- None of the whole numbers in a value has too many digits. -/
inductive Value.Short : Value → Prop where
  /-- A value without parts. -/
  | scalar {s : Scalar} (short : s.Short) : Short (.scalar s)
  /-- A list of such values. -/
  | list {items : List Value} (short : ∀ v ∈ items, Short v) : Short (.list items)
  /-- Such values under names. -/
  | object {fields : List (String × Value)} (short : ∀ f ∈ fields, Short f.2) :
    Short (.object fields)

namespace Json

/-! ## Numbers -/

/-- A number has no more digits than were read. -/
theorem digitsValue_lt {ds : List Char} (h : ∀ c ∈ ds, isDigit c = true) :
    digitsValue ds < 10 ^ ds.length := by
  have digits : ∀ d ∈ ds.map fun c => c.toNat - 0x30, d < 10 := by
    simp only [List.mem_map]
    rintro _ ⟨c, mem, rfl⟩
    have between := h c mem
    simp only [isDigit, Bool.and_eq_true, decide_eq_true_eq] at between
    have top : c.toNat ≤ '9'.toNat := between.2
    have nine : '9'.toNat = 0x39 := rfl
    omega
  simpa [digitsValue] using ofDigits_lt digits

/-- The whole digits of a number are digits. -/
theorem isDigit_of_mem_readWhole {cs : List Char} :
    ∀ c ∈ (readWhole cs).1, isDigit c = true := by
  unfold readWhole
  split
  · simp [isDigit]
  · intro c mem
    exact List.mem_takeWhile_imp mem

/-- A number that is read is short. -/
theorem short_of_readNumber {cs rest : List Char} {v : Value}
    (h : readNumber cs = .ok (v, rest)) : v.Short := by
  unfold readNumber at h
  dsimp only at h
  split at h
  all_goals
    split_ifs at h with noDigits noPoint long
    · cases h
      refine .scalar ?_
      rw [Scalar.Short, natAbs_signed]
      exact (digitsValue_lt isDigit_of_mem_readWhole).trans_le
        (Nat.pow_le_pow_right (by decide) (Nat.le_of_not_lt long))
    · cases h
      exact .scalar trivial

/-! ## Values -/

/-- What the three parts of the reader find within a bound on the nesting is short. -/
structure FindsShort (n : Nat) : Prop where
  /-- Values are short. -/
  value : ∀ {cs v rest}, readValue n cs = .ok (v, rest) → v.Short
  /-- The items of a list are short. -/
  items : ∀ {cs vs rest}, readItems n cs = .ok (vs, rest) → ∀ v ∈ vs, v.Short
  /-- The fields of an object are short when those before them are. -/
  fields : ∀ {before cs fs rest}, (∀ f ∈ before, f.2.Short) →
    readFields n before cs = .ok (fs, rest) → ∀ f ∈ fs, f.2.Short

/-- Whatever follows a bracket, a value is short when its parts are. -/
theorem FindsShort.readValue_succ {n : Nat} (ih : FindsShort n) {cs rest : List Char} {v : Value}
    (h : readValue (n + 1) cs = .ok (v, rest)) : v.Short := by
  rw [readValue.eq_def] at h
  dsimp only at h
  split at h
  · obtain ⟨p, _, read⟩ := map_eq_ok_iff.mp h
    cases read
    exact .scalar trivial
  · split at h
    · cases h
      exact .object fun f mem => by cases mem
    · obtain ⟨p, inner, read⟩ := map_eq_ok_iff.mp h
      cases read
      exact .object (ih.fields (fun f mem => by cases mem) inner)
  · split at h
    · cases h
      exact .list fun v mem => by cases mem
    · obtain ⟨p, inner, read⟩ := map_eq_ok_iff.mp h
      cases read
      exact .list (ih.items inner)
  all_goals first
    | exact short_of_readNumber h
    | cases h; exact .scalar trivial

/-- The items of a list are short when each of them is. -/
theorem FindsShort.readItems_succ {n : Nat} (ih : FindsShort n) {cs rest : List Char}
    {vs : List Value} (h : readItems (n + 1) cs = .ok (vs, rest)) : ∀ v ∈ vs, v.Short := by
  rw [readItems.eq_def] at h
  obtain ⟨⟨v, left⟩, first, h⟩ := bind_eq_ok_iff.mp h
  dsimp only at h
  split at h
  · obtain ⟨⟨others, after⟩, next, h⟩ := bind_eq_ok_iff.mp h
    cases h
    exact List.forall_mem_cons.mpr ⟨ih.value first, ih.items next⟩
  · cases h
    exact List.forall_mem_singleton.mpr (ih.value first)
  · cases h

/-- The fields of an object are short when each of them is. -/
theorem FindsShort.readFields_succ {n : Nat} (ih : FindsShort n) {before fs : List (String × Value)}
    {cs rest : List Char} (short : ∀ f ∈ before, f.2.Short)
    (h : readFields (n + 1) before cs = .ok (fs, rest)) : ∀ f ∈ fs, f.2.Short := by
  rw [readFields.eq_def] at h
  dsimp only at h
  split at h
  · obtain ⟨⟨name, left⟩, _, h⟩ := bind_eq_ok_iff.mp h
    dsimp only at h
    split at h
    · obtain ⟨⟨v, left⟩, value, h⟩ := bind_eq_ok_iff.mp h
      have put : ∀ f ∈ Table.put before name v, f.2.Short := by
        intro f mem
        rcases Table.mem_put mem with rfl | mem
        · exact ih.value value
        · exact short f mem
      split at h
      · exact ih.fields put h
      · cases h
        exact put
      · cases h
    · cases h
  · cases h

/-- What the reader finds is short. -/
theorem findsShort (n : Nat) : FindsShort n := by
  induction n with
  | zero => constructor <;> intros <;> simp_all [readValue, readItems, readFields]
  | succ n ih => exact ⟨ih.readValue_succ, ih.readItems_succ, ih.readFields_succ⟩

/-- A value that is read from a text is short. -/
theorem short_of_read {s : String} {v : Value} (h : read s = .ok v) : v.Short := by
  rw [read, mapError_eq_ok_iff, readList] at h
  split at h
  · cases h
  · obtain ⟨⟨w, rest⟩, value, h⟩ := bind_eq_ok_iff.mp h
    dsimp only at h
    split at h
    · cases h
      exact (findsShort _).value value
    · cases h

end Json

end Deskwork
