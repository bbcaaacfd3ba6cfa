/-
# Replacing Parts of Texts

What replacing every occurrence of a text does to the characters of another one. A text in which the part
does not occur stays as it is (`replaceAll_eq_self`), and what cannot be the beginning of the part is passed
over (`replaceAll_append_of_not_mem`). A character that does not stand in the new part becomes rarer with
every part that holds it (`count_replaceAll_lt`).
-/
import Deskwork.Text.Substitute
import Mathlib.Data.List.Infix

namespace Deskwork.Text

variable {pat new cs rest : List Char} {x : Char}

/-! ## Occurrences -/

theorem dropStart?_eq_some_iff : dropStart? pat cs = some rest ↔ cs = pat ++ rest := by
  refine ⟨eq_append_of_dropStart?, ?_⟩
  rintro rfl
  exact dropStart?_append pat rest

theorem dropStart?_eq_none_iff : dropStart? pat cs = none ↔ ¬ pat <+: cs := by
  rw [Option.eq_none_iff_forall_not_mem]
  constructor
  · rintro absent ⟨rest, whole⟩
    exact absent rest (dropStart?_eq_some_iff.mpr whole.symm)
  · intro absent rest found
    exact absent ⟨rest, (dropStart?_eq_some_iff.mp found).symm⟩

/-- A part is looked for at every place. -/
theorem occursIn_iff : occursIn pat cs = true ↔ pat <:+: cs := by
  induction cs with
  | nil => simp [occursIn]
  | cons c cs ih =>
    have front : (dropStart? pat (c :: cs)).isSome = true ↔ pat <+: c :: cs := by
      rw [← Option.ne_none_iff_isSome, Ne, dropStart?_eq_none_iff, not_not]
    rw [occursIn, Bool.or_eq_true, front, ih, List.infix_cons_iff]

theorem holds_iff {s part : String} : holds s part = true ↔ part.toList <:+: s.toList :=
  occursIn_iff

theorem holds_eq_false_iff {s part : String} :
    holds s part = false ↔ ¬ part.toList <:+: s.toList := by
  rw [← holds_iff, Bool.not_eq_true]

/-- What does not hold a character ends before the character stands. -/
theorem prefix_of_append_cons {front part tail : List Char} (h : x ∉ front)
    (whole : part ++ x :: tail = front ++ rest) : front <+: part := by
  rcases List.append_eq_append_iff.mp whole with ⟨more, rfl, after⟩ | ⟨more, rfl, -⟩
  · cases more with
    | nil => exact ⟨[], by simp⟩
    | cons y more =>
      obtain ⟨rfl, -⟩ := List.cons.inj after
      exact absurd (by simp) h
  · exact List.prefix_append front more

/-- Where a character does not stand, nothing begins with it. -/
theorem infix_of_infix_append {front part : List Char} (h : x ∉ front)
    (occurs : x :: part <:+: front ++ cs) : x :: part <:+: cs := by
  induction front with
  | nil => exact occurs
  | cons c front ih =>
    rw [List.mem_cons, not_or] at h
    rcases List.infix_cons_iff.mp occurs with here | later
    · exact absurd (List.cons_prefix_cons.mp here).1 h.1
    · exact ih h.2 later

/-! ## Replacing -/

/-- Where the part does not occur, nothing is replaced. -/
theorem replaceAll_eq_self (h : ¬ pat <:+: cs) : replaceAll pat new cs = cs := by
  induction cs with
  | nil => exact replaceAll_nil pat new
  | cons c cs ih =>
    rw [List.infix_cons_iff, not_or] at h
    rw [replaceAll_cons_of_none (dropStart?_eq_none_iff.mpr h.1), ih h.2]

/-- What does not hold the first character of the part is passed over. -/
theorem replaceAll_append_of_not_mem {front : List Char} (h : x ∉ front) :
    replaceAll (x :: pat) new (front ++ cs) = front ++ replaceAll (x :: pat) new cs := by
  induction front with
  | nil => rfl
  | cons c front ih =>
    rw [List.mem_cons, not_or] at h
    have other : dropStart? (x :: pat) (c :: (front ++ cs)) = none := by
      simp [dropStart?, h.1]
    rw [List.cons_append, replaceAll_cons_of_none other, ih h.2, List.cons_append]

/-- A character that is not put in does not become more frequent. -/
theorem count_replaceAll_le (h : x ∉ new) (cs : List Char) :
    (replaceAll pat new cs).count x ≤ cs.count x := by
  fun_induction replaceAll pat new cs with
  | case1 => exact le_rfl
  | case2 c rest after found empty ih =>
    rw [List.count_cons, List.count_cons]
    exact Nat.add_le_add_right ih _
  | case3 c rest after found nonempty ih =>
    rw [eq_append_of_dropStart? found, List.count_append, List.count_append,
      List.count_eq_zero_of_not_mem h, Nat.zero_add]
    exact ih.trans (Nat.le_add_left _ _)
  | case4 c rest absent ih =>
    rw [List.count_cons, List.count_cons]
    exact Nat.add_le_add_right ih _

/-- A character of the part that is not put in becomes rarer when the part occurs. -/
theorem count_replaceAll_lt (h : x ∉ new) (mem : x ∈ pat) (occurs : pat <:+: cs) :
    (replaceAll pat new cs).count x < cs.count x := by
  fun_induction replaceAll pat new cs with
  | case1 =>
    rw [List.infix_nil.mp occurs] at mem
    cases mem
  | case2 c rest after found empty ih =>
    rw [empty] at mem
    cases mem
  | case3 c rest after found nonempty ih =>
    have fewer : (replaceAll pat new after).count x ≤ after.count x := count_replaceAll_le h after
    have there : 0 < pat.count x := List.count_pos_iff.mpr mem
    rw [eq_append_of_dropStart? found, List.count_append, List.count_append,
      List.count_eq_zero_of_not_mem h]
    omega
  | case4 c rest absent ih =>
    have later : pat <:+: rest :=
      (List.infix_cons_iff.mp occurs).resolve_left (dropStart?_eq_none_iff.mp absent)
    rw [List.count_cons, List.count_cons]
    exact Nat.add_lt_add_right (ih later) _

end Deskwork.Text
